import Mathlib.Data.List.Induction
import PrintFlow.Rip.TransferCurves

/-!
# Loading transfer curves

A load starts from identity tables and ends in one of two states: the tables of the file, which do
not depend on the state before (`load_valid`), or the identity (`load_invalid`). The helper that
restores the identity also clears the last error, so of the failures only a file that does not open
leaves one; `loads_wholly_iff` is the condition on the file.
-/

namespace PrintFlow.MultiInkLinearization

open FloatFormat

variable (q : CurveReader)

/-! ## The two final states -/

/-- The combinations are made of the tables of the channels. -/
structure CombosMatch (state : MultiInkLinearization) : Prop where
  cyan : state.lutC_Lc.dark = state.channelLuts .C ∧ state.lutC_Lc.light = state.channelLuts .LC
  magenta : state.lutM_Lm.dark = state.channelLuts .M ∧ state.lutM_Lm.light = state.channelLuts .LM
  yellow : state.lutY.single = state.channelLuts .Y
  black : state.lutK_Lk_LLk.dark = state.channelLuts .K ∧
    state.lutK_Lk_LLk.light = state.channelLuts .LK ∧
    state.lutK_Lk_LLk.lighter = state.channelLuts .LLK
  white : state.lutW = state.channelLuts .W
  varnish : state.lutV = state.channelLuts .V

/-- Every table is the identity, and no curves are in use. -/
structure IsIdentity (state : MultiInkLinearization) : Prop where
  channelLuts : ∀ channel, state.channelLuts channel = makeLinearLut
  combos : CombosMatch state
  hasExternalCurves : state.hasExternalCurves = false

/-- The valid curves of a document, in its order. -/
def fileCurves (document : XmlDocument) : List (LinearizationChannel × Lut8) :=
  document.elements.filterMap fun element ↦
    match elementCurve q element with
    | some (.ok curve) => some curve
    | _ => none

/-- The last curve for a channel. -/
def lastCurve (curves : List (LinearizationChannel × Lut8)) (channel : LinearizationChannel) :
    Option Lut8 :=
  (curves.reverse.find? (·.1 = channel)).map (·.2)

/-- The table that a document gives a channel: its own last curve, else what the curve of its parent
gives a light channel, else the identity. -/
def fileTable (document : XmlDocument) (channel : LinearizationChannel) : Lut8 :=
  match lastCurve (fileCurves q document) channel, lightParent q channel with
  | some lut, _ => lut
  | none, some (parent, derive) =>
    (lastCurve (fileCurves q document) parent).elim makeLinearLut derive
  | none, none => makeLinearLut

/-- The tables are those of a document, and curves are in use. -/
structure HoldsCurves (document : XmlDocument) (state : MultiInkLinearization) : Prop where
  channelLuts : ∀ channel, state.channelLuts channel = fileTable q document channel
  combos : CombosMatch state
  hasExternalCurves : state.hasExternalCurves = true

/-- A document without errors, with some curve and no invalid one. -/
structure Loads (document : XmlDocument) : Prop where
  valid : ∀ element ∈ document.elements, ∀ message,
    elementCurve q element ≠ some (.error message)
  wellFormed : document.error = none
  supported : fileCurves q document ≠ []

/-- A load that fails leaves the identity and a message, one that succeeds the tables of the
file. -/
structure LoadsWholly (path : String) (file : Option XmlDocument) (state : MultiInkLinearization) :
    Prop where
  failed : (loadTransferCurveXml q path file state).2 = false →
    IsIdentity (loadTransferCurveXml q path file state).1 ∧
      (loadTransferCurveXml q path file state).1.lastError ≠ ""
  loaded : (loadTransferCurveXml q path file state).2 = true →
    ∃ document, file = some document ∧
      HoldsCurves q document (loadTransferCurveXml q path file state).1

theorem combos_match_rebuild (state : MultiInkLinearization) :
    CombosMatch (rebuildCombosFromChannels state) :=
  ⟨⟨rfl, rfl⟩, ⟨rfl, rfl⟩, rfl, ⟨rfl, rfl, rfl⟩, rfl, rfl⟩

theorem is_identity_rebuild (state : MultiInkLinearization) :
    IsIdentity (rebuildIdentityLuts state) :=
  ⟨fun _ ↦ rfl, combos_match_rebuild _, rfl⟩

/-- An abandoned load leaves the identity, and its message is cleared with the rest. -/
theorem abandon_identity (state : MultiInkLinearization) (message : String) :
    IsIdentity (abandon state message) ∧ (abandon state message).lastError = "" :=
  ⟨is_identity_rebuild _, rfl⟩

/-! ## The loop -/

theorem last_curve_append (curves : List (LinearizationChannel × Lut8))
    (channel other : LinearizationChannel) (lut : Lut8) :
    lastCurve (curves ++ [(channel, lut)]) other =
      if channel = other then some lut else lastCurve curves other := by
  unfold lastCurve
  rw [List.reverse_append, List.reverse_singleton, List.singleton_append, List.find?_cons]
  by_cases h : channel = other
  · simp [h]
  · simp [h]

/-- The state after some curves were set. -/
def setCurves (state : MultiInkLinearization) (curves : List (LinearizationChannel × Lut8)) :
    MultiInkLinearization :=
  curves.foldl (fun state curve ↦ setCurve state curve.1 curve.2) state

/-- Each channel has its last curve. -/
theorem set_curves_luts (state : MultiInkLinearization)
    (curves : List (LinearizationChannel × Lut8)) (channel : LinearizationChannel) :
    (setCurves state curves).channelLuts channel =
        (lastCurve curves channel).getD (state.channelLuts channel) ∧
      (setCurves state curves).channelValid channel =
        ((lastCurve curves channel).isSome || state.channelValid channel) := by
  induction curves using List.reverseRecOn with
  | nil => exact ⟨rfl, rfl⟩
  | append_singleton curves curve ih =>
      obtain ⟨other, lut⟩ := curve
      obtain ⟨hlut, hvalid⟩ := ih
      have hstep : setCurves state (curves ++ [(other, lut)]) =
          setCurve (setCurves state curves) other lut := List.foldl_append ..
      rw [hstep, last_curve_append]
      by_cases h : other = channel
      · subst h
        rw [if_pos rfl]
        exact ⟨Function.update_self .., Function.update_self ..⟩
      · rw [if_neg h, ← hlut, ← hvalid]
        exact ⟨Function.update_of_ne (Ne.symm h) .., Function.update_of_ne (Ne.symm h) ..⟩

/-- Without an invalid curve the loop sets every curve. -/
theorem read_curves_valid {elements : List XmlElement}
    (hvalid : ∀ element ∈ elements, ∀ message, elementCurve q element ≠ some (.error message))
    (state : MultiInkLinearization) (found : Bool) :
    readCurves q elements (state, found) =
      .ok (setCurves state (fileCurves q ⟨elements, none⟩),
        found || !(fileCurves q ⟨elements, none⟩).isEmpty) := by
  -- Elements without a curve are passed over; the others set theirs in the order of the file.
  induction elements generalizing state found with
  | nil => simp [readCurves, fileCurves, setCurves]
  | cons element rest ih =>
      obtain ⟨hfirst, hrest⟩ := List.forall_mem_cons.mp hvalid
      rw [readCurves]
      cases hcurve : elementCurve q element with
      | none =>
          have hsame : fileCurves q ⟨element :: rest, none⟩ = fileCurves q ⟨rest, none⟩ :=
            List.filterMap_cons_none (by rw [hcurve])
          rw [hsame]
          exact ih hrest state found
      | some curve =>
          cases curve with
          | error message => exact absurd hcurve (hfirst message)
          | ok curve =>
              have hcons : fileCurves q ⟨element :: rest, none⟩ =
                  curve :: fileCurves q ⟨rest, none⟩ := List.filterMap_cons_some (by rw [hcurve])
              rw [hcons]
              dsimp only
              rw [ih hrest]
              simp [setCurves]

/-- With an invalid curve the load is abandoned in the loop. -/
theorem read_curves_invalid {elements : List XmlElement}
    (hinvalid : ∃ element ∈ elements, ∃ message, elementCurve q element = some (.error message))
    (state : MultiInkLinearization) (found : Bool) :
    ∃ last message, readCurves q elements (state, found) = .error (abandon last message) := by
  induction elements generalizing state found with
  | nil => simp at hinvalid
  | cons element rest ih =>
      rw [readCurves]
      cases hcurve : elementCurve q element with
      | none =>
          obtain ⟨other, hother, message, hmessage⟩ := hinvalid
          rcases List.mem_cons.mp hother with rfl | hother
          · rw [hcurve] at hmessage
            cases hmessage
          · exact ih ⟨other, hother, message, hmessage⟩ state found
      | some curve =>
          cases curve with
          | error message => exact ⟨state, message, rfl⟩
          | ok curve =>
              obtain ⟨other, hother, message, hmessage⟩ := hinvalid
              rcases List.mem_cons.mp hother with rfl | hother
              · rw [hcurve] at hmessage
                cases hmessage
              · exact ih ⟨other, hother, message, hmessage⟩ _ true

/-! ## A load -/

/-- The tables after the missing light channels were derived are those of the document. -/
theorem derived_luts (document : XmlDocument) {state : MultiInkLinearization}
    (hstate : IsIdentity state) (hvalid : ∀ channel, state.channelValid channel = false)
    (channel : LinearizationChannel) :
    (deriveMissingLightChannels q (setCurves state (fileCurves q document))).channelLuts channel =
      fileTable q document channel := by
  have hset : ∀ channel, (setCurves state (fileCurves q document)).channelLuts channel =
      (lastCurve (fileCurves q document) channel).getD makeLinearLut := by
    intro channel
    rw [(set_curves_luts state _ channel).1, hstate.channelLuts]
  have hfound : ∀ channel, (setCurves state (fileCurves q document)).channelValid channel =
      (lastCurve (fileCurves q document) channel).isSome := by
    intro channel
    rw [(set_curves_luts state _ channel).2, hvalid, Bool.or_false]
  unfold deriveMissingLightChannels fileTable
  dsimp only
  cases lightParent q channel with
  | none =>
      rw [hset]
      cases lastCurve (fileCurves q document) channel <;> rfl
  | some light =>
      obtain ⟨parent, derive⟩ := light
      dsimp only
      rw [hfound, hfound, hset, hset]
      cases lastCurve (fileCurves q document) channel with
      | some lut => rfl
      | none =>
          dsimp only
          cases lastCurve (fileCurves q document) parent <;> rfl

/-- A file that does not open. -/
theorem load_unopened (path : String) (state : MultiInkLinearization) :
    (loadTransferCurveXml q path none state).2 = false ∧
      IsIdentity (loadTransferCurveXml q path none state).1 ∧
      (loadTransferCurveXml q path none state).1.lastError =
        "Could not open linearization XML: " ++ path :=
  ⟨rfl, ⟨fun _ ↦ rfl, ⟨⟨rfl, rfl⟩, ⟨rfl, rfl⟩, rfl, ⟨rfl, rfl, rfl⟩, rfl, rfl⟩, rfl⟩, rfl⟩

/-- A document that loads. -/
theorem load_valid {document : XmlDocument} (h : Loads q document) (path : String)
    (state : MultiInkLinearization) :
    (loadTransferCurveXml q path (some document) state).2 = true ∧
      HoldsCurves q document (loadTransferCurveXml q path (some document) state).1 := by
  have hcurves : fileCurves q ⟨document.elements, none⟩ = fileCurves q document := rfl
  have hread := read_curves_valid q h.valid { rebuildIdentityLuts state with lastError := "" } false
  rw [hcurves, Bool.false_or, List.isEmpty_eq_false_iff.mpr h.supported] at hread
  unfold loadTransferCurveXml
  dsimp only
  rw [hread]
  dsimp only
  rw [h.wellFormed]
  refine ⟨rfl, ?_, ⟨⟨rfl, rfl⟩, ⟨rfl, rfl⟩, rfl, ⟨rfl, rfl, rfl⟩, rfl, rfl⟩, rfl⟩
  intro channel
  exact derived_luts q document (is_identity_rebuild _) (fun _ ↦ rfl) channel

/-- A document that does not load. -/
theorem load_invalid {document : XmlDocument} (h : ¬ Loads q document) (path : String)
    (state : MultiInkLinearization) :
    (loadTransferCurveXml q path (some document) state).2 = false ∧
      IsIdentity (loadTransferCurveXml q path (some document) state).1 ∧
      (loadTransferCurveXml q path (some document) state).1.lastError = "" := by
  unfold loadTransferCurveXml
  dsimp only
  by_cases hvalid : ∀ element ∈ document.elements, ∀ message,
      elementCurve q element ≠ some (.error message)
  · have hread := read_curves_valid q hvalid { rebuildIdentityLuts state with lastError := "" } false
    have hcurves : fileCurves q ⟨document.elements, none⟩ = fileCurves q document := rfl
    rw [hread, hcurves]
    dsimp only
    cases herror : document.error with
    | some errorString => exact ⟨rfl, abandon_identity _ _⟩
    | none =>
        have hnone : fileCurves q document = [] := by
          by_contra hsupported
          exact h ⟨hvalid, herror, hsupported⟩
        rw [hnone]
        exact ⟨rfl, abandon_identity _ _⟩
  · push Not at hvalid
    obtain ⟨last, message, hread⟩ := read_curves_invalid q hvalid
      { rebuildIdentityLuts state with lastError := "" } false
    rw [hread]
    exact ⟨rfl, abandon_identity _ _⟩

/-- A load is all or nothing exactly when the file does not open or its document loads: every other
failure leaves the identity without a message. -/
theorem loads_wholly_iff (path : String) (file : Option XmlDocument)
    (state : MultiInkLinearization) :
    LoadsWholly q path file state ↔ ∀ document, file = some document → Loads q document := by
  -- Only a file that does not open leaves its message; the others clear it with the identity.
  cases file with
  | none =>
      obtain ⟨hresult, hidentity, hmessage⟩ := load_unopened q path state
      refine iff_of_true ⟨fun _ ↦ ⟨hidentity, ?_⟩, fun h ↦ ?_⟩ ?_
      · rw [hmessage]
        simp
      · rw [hresult] at h
        cases h
      · intro document h
        cases h
  | some document =>
      by_cases hloads : Loads q document
      · obtain ⟨hresult, hcurves⟩ := load_valid q hloads path state
        refine iff_of_true ⟨fun h ↦ ?_, fun _ ↦ ⟨document, rfl, hcurves⟩⟩ ?_
        · rw [hresult] at h
          cases h
        · intro other h
          obtain rfl := Option.some.inj h
          exact hloads
      · obtain ⟨hresult, -, hmessage⟩ := load_invalid q hloads path state
        refine iff_of_false (fun h ↦ (h.failed hresult).2 hmessage) ?_
        exact fun h ↦ hloads (h document rfl)

/-- A reader of ASCII text with whole numbers. -/
def asciiReader : CurveReader where
  toLower text := text.map Char.toLower
  toDouble text := text.toNat?.map fun value ↦ .finite value
  fl := id
  nanByte := 0

/-- A document with a curve for cyan that ends in the middle of a pair. -/
def brokenCurve : XmlDocument where
  elements :=
    [⟨"TransferCurve", fun name ↦ ([("Separation", "Cyan"), ("Curve", "0 0 1")].lookup name).getD ""⟩]
  error := none

/-- Loading it fails without a message. -/
theorem broken_curve_without_message :
    ¬ LoadsWholly asciiReader "curves.xml" (some brokenCurve)
      (ofChannels (fun _ ↦ makeLinearLut) fun _ ↦ false) := by
  intro h
  exact (h.failed (by decide +kernel)).2 (by decide +kernel)

end PrintFlow.MultiInkLinearization
