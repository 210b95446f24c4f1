import PrintFlow.Library.Runs
import PrintFlow.Rip.ImageEditor

/-!
# What undo and failed edits leave of the editor

An edit saves the image and nothing else, before it knows whether its operation throws. So undo
gives back the image but not the remembered values (`undo_restores_iff`), and an edit that throws
leaves its traces in the stacks (`failed_edit_iff`).
-/

namespace PrintFlow.ImageEditor

variable {I : Type} (magick : Magick I)

/-! ## Failed edits -/

/-- The edit gets as far as its operation, which throws. -/
structure Throws (edit : Edit I) (editor : ImageEditor I) : Prop where
  imageLoaded : editor.imageLoaded = true
  accepted : edit.accepted = true
  throws : edit.operation (edit.remember editor.modulation) editor.image = none

/-- An edit that is stopped by a check changes nothing. -/
theorem perform_rejected {edit : Edit I} {editor : ImageEditor I}
    (h : editor.imageLoaded = false ∨ edit.accepted = false) :
    perform edit editor = (editor, false) := by
  unfold perform
  rcases h with h | h
  · rw [h, Bool.not_false, if_pos rfl]
  · rw [h, Bool.not_false, if_pos rfl, ite_self]

/-- An edit that gets to its operation. -/
theorem perform_saved {edit : Edit I} {editor : ImageEditor I}
    (hloaded : editor.imageLoaded = true) (haccepted : edit.accepted = true) :
    perform edit editor =
      ({ editor with
          undoStack := editor.image :: editor.undoStack
          redoStack := []
          modulation := edit.remember editor.modulation
          image := (edit.operation (edit.remember editor.modulation) editor.image).getD
            editor.image },
        (edit.operation (edit.remember editor.modulation) editor.image).isSome) := by
  simp only [perform, pushUndoState, hloaded, haccepted, Bool.not_true, Bool.false_eq_true,
    if_false, if_true]
  cases edit.operation (edit.remember editor.modulation) editor.image <;> rfl

/-- A failed edit changes nothing exactly when it was a check that stopped it. -/
theorem failed_edit_iff (call : EditCall) (editor : ImageEditor I) :
    ((perform (call.edit magick) editor).2 = false → (perform (call.edit magick) editor).1 = editor) ↔
      ¬ Throws (call.edit magick) editor := by
  by_cases hloaded : editor.imageLoaded = true
  · by_cases haccepted : (call.edit magick).accepted = true
    · rw [perform_saved hloaded haccepted]
      cases hresult : (call.edit magick).operation ((call.edit magick).remember editor.modulation)
          editor.image with
      | some image =>
          refine iff_of_true (fun h ↦ by cases h) fun h ↦ ?_
          exact absurd (hresult.symm.trans h.throws) (Option.some_ne_none image)
      | none =>
          refine iff_of_false (fun h ↦ ?_) (not_not.mpr ⟨hloaded, haccepted, hresult⟩)
          -- The saved image makes the stack longer.
          have hstack := congrArg (fun editor ↦ editor.undoStack.length) (h rfl)
          dsimp only [List.length_cons] at hstack
          omega
    · rw [perform_rejected (.inr (Bool.eq_false_of_not_eq_true haccepted))]
      exact iff_of_true (fun _ ↦ rfl) fun h ↦ haccepted h.accepted
  · rw [perform_rejected (.inl (Bool.eq_false_of_not_eq_true hloaded))]
    exact iff_of_true (fun _ ↦ rfl) fun h ↦ hloaded h.imageLoaded

/-! ## Undo and redo -/

/-- The state that an edit works on. -/
def state (editor : ImageEditor I) : EditingState I := ⟨editor.image, editor.modulation⟩

/-- The editor in another state, with the same stacks. -/
def withState (editor : ImageEditor I) (state : EditingState I) : ImageEditor I :=
  { editor with image := state.image, modulation := state.modulation }

/-- What an edit gives: the state after it and what it returns. -/
def result (edit : Edit I) (editor : ImageEditor I) : EditingState I × Bool :=
  ((perform edit editor).1.state, (perform edit editor).2)

/-- The images that undo and redo go through. -/
def images (editor : ImageEditor I) : History Unit I where
  past := editor.undoStack.map fun image ↦ ((), image)
  present := editor.image
  future := editor.redoStack.map fun image ↦ ((), image)

/-- Undo goes back in the images and keeps the remembered values. -/
theorem undo_images (editor : ImageEditor I) :
    editor.images.undo = (if (undo editor).2 then some (undo editor).1.images else none) ∧
      (undo editor).1.modulation = editor.modulation ∧
      ((undo editor).2 = false → (undo editor).1 = editor) := by
  obtain ⟨image, imageLoaded, undoStack, redoStack, modulation⟩ := editor
  cases undoStack with
  | nil => exact ⟨rfl, rfl, fun _ ↦ rfl⟩
  | cons => exact ⟨rfl, rfl, fun h ↦ by cases h⟩

/-- Redo goes forward in the images and keeps the remembered values. -/
theorem redo_images (editor : ImageEditor I) :
    editor.images.redo = (if (redo editor).2 then some (redo editor).1.images else none) ∧
      (redo editor).1.modulation = editor.modulation ∧
      ((redo editor).2 = false → (redo editor).1 = editor) := by
  obtain ⟨image, imageLoaded, undoStack, redoStack, modulation⟩ := editor
  cases redoStack with
  | nil => exact ⟨rfl, rfl, fun _ ↦ rfl⟩
  | cons => exact ⟨rfl, rfl, fun h ↦ by cases h⟩

/-- An edit, an undo or a redo. -/
inductive Call where
  | edit (call : EditCall)
  | undo
  | redo
  deriving DecidableEq, Repr

/-- An editor with the states it went through: `saved` has the state before each edit that saved the
image, and the state before each undo, both tagged with whether the edit succeeded. -/
structure Session (I : Type) where
  editor : ImageEditor I
  saved : History Bool (EditingState I)

/-- A session that begins with this editor. What its stacks hold was saved by no edit of the
session. -/
def Session.start (editor : ImageEditor I) : Session I where
  editor := editor
  saved :=
    { past := editor.undoStack.map fun image ↦ (false, ⟨image, editor.modulation⟩)
      present := editor.state
      future := editor.redoStack.map fun image ↦ (false, ⟨image, editor.modulation⟩) }

/-- The session after a call. -/
def Session.step (session : Session I) : Call → Session I
  | .edit call =>
    let edit := call.edit magick
    let after := perform edit session.editor
    { editor := after.1
      saved :=
        if session.editor.imageLoaded && edit.accepted then session.saved.edit after.2 after.1.state
        else session.saved }
  | .undo =>
    let after := (undo session.editor).1
    { editor := after
      saved := session.saved.undo.elim session.saved (·.replace after.state) }
  | .redo =>
    let after := (redo session.editor).1
    { editor := after
      saved := session.saved.redo.elim session.saved (·.replace after.state) }

/-- The editor is in a state it was in before, so that every edit gives what it gave then. -/
structure Restored (state : EditingState I) (editor : ImageEditor I) : Prop where
  same : editor.state = state
  result : ∀ call : EditCall,
    result (call.edit magick) editor = result (call.edit magick) (editor.withState state)

/-- Undo of a successful edit restores the state before it, and redo the state before the undo. -/
def Restores (session : Session I) : Call → Prop
  | .edit _ => True
  | .undo => ∀ state past, session.saved.past = (true, state) :: past →
    Restored magick state (undo session.editor).1
  | .redo => ∀ state future, session.saved.future = (true, state) :: future →
    Restored magick state (redo session.editor).1

/-- The remembered values are those of the state that undo or redo goes to, when they take back or
repeat a successful edit. -/
def SameModulation (session : Session I) : Call → Prop
  | .edit _ => True
  | .undo => ∀ state past, session.saved.past = (true, state) :: past →
    session.editor.modulation = state.modulation
  | .redo => ∀ state future, session.saved.future = (true, state) :: future →
    session.editor.modulation = state.modulation

/-- The stacks hold the images of the saved states. -/
structure Tracks (session : Session I) : Prop where
  images : session.saved.map (fun _ ↦ ()) (·.image) = session.editor.images
  present : session.saved.present = session.editor.state

theorem tracks_start (editor : ImageEditor I) : Tracks (Session.start editor) := by
  refine ⟨?_, rfl⟩
  simp [Session.start, History.map, ImageEditor.images, ImageEditor.state, Function.comp_def]

/-- A move in the images that the saved states follow. -/
theorem tracks_move {session : Session I} (htracks : Tracks session) {after : ImageEditor I}
    {moved : Bool} {target : Option (History Bool (EditingState I))}
    (htarget : target.map (History.map (fun _ ↦ ()) (·.image)) =
      if moved then some after.images else none)
    (hstill : moved = false → after = session.editor) :
    Tracks ⟨after, target.elim session.saved (·.replace after.state)⟩ := by
  cases moved with
  | false =>
      obtain rfl := hstill rfl
      obtain rfl := Option.map_eq_none_iff.mp htarget
      exact htracks
  | true =>
      obtain ⟨before, rfl, hbefore⟩ := Option.map_eq_some_iff.mp htarget
      refine ⟨(History.map_replace _ _ ?_).trans hbefore, rfl⟩
      exact (congrArg History.present hbefore).symm

/-- The saved states follow every call. -/
theorem tracks_step {session : Session I} (htracks : Tracks session) (call : Call) :
    Tracks (session.step magick call) := by
  cases call with
  | edit call =>
      by_cases hsaves : session.editor.imageLoaded = true ∧ (call.edit magick).accepted = true
      · obtain ⟨hloaded, haccepted⟩ := hsaves
        have hperform := perform_saved hloaded haccepted
        unfold Session.step
        dsimp only
        rw [hperform, hloaded, haccepted, Bool.true_and, if_pos rfl]
        refine ⟨?_, rfl⟩
        rw [History.map_edit, htracks.images]
        rfl
      · have hrejected : (session.editor.imageLoaded && (call.edit magick).accepted) = false :=
          Bool.eq_false_of_not_eq_true fun h ↦ hsaves (Bool.and_eq_true_iff.mp h)
        have hperform := perform_rejected (Bool.and_eq_false_iff.mp hrejected)
        unfold Session.step
        dsimp only
        rw [hperform, hrejected, if_neg Bool.false_ne_true]
        exact htracks
  | undo =>
      obtain ⟨himages, -, hstill⟩ := undo_images session.editor
      rw [← htracks.images, History.map_undo] at himages
      exact tracks_move htracks himages hstill
  | redo =>
      obtain ⟨himages, -, hstill⟩ := redo_images session.editor
      rw [← htracks.images, History.map_redo] at himages
      exact tracks_move htracks himages hstill

/-- An editor whose image is that of a state is in that state when its remembered values are. -/
theorem restored_iff {editor : ImageEditor I} {state : EditingState I}
    (himage : editor.image = state.image) :
    Restored magick state editor ↔ editor.modulation = state.modulation := by
  refine ⟨fun h ↦ congrArg EditingState.modulation h.same, fun h ↦ ?_⟩
  have hsame : editor.state = state := by rw [ImageEditor.state, himage, h]
  refine ⟨hsame, fun call ↦ ?_⟩
  rw [← hsame]
  rfl

/-- In a move to a saved state the image is that of the state. -/
theorem move_image {after : ImageEditor I} {moved : Bool}
    {target : History Bool (EditingState I)}
    (htarget : some (target.map (fun _ ↦ ()) (·.image)) = if moved then some after.images else none) :
    after.image = target.present.image := by
  cases moved with
  | false => cases htarget
  | true => exact (congrArg History.present (Option.some.inj htarget)).symm

/-- A call restores what it should exactly when it finds the remembered values of that state. -/
theorem restores_iff {session : Session I} (htracks : Tracks session) (call : Call) :
    Restores magick session call ↔ SameModulation session call := by
  cases call with
  | edit => exact Iff.rfl
  | undo =>
      obtain ⟨himages, hmodulation, -⟩ := undo_images session.editor
      rw [← htracks.images, History.map_undo] at himages
      refine forall_congr' fun state ↦ forall_congr' fun past ↦ forall_congr' fun hpast ↦ ?_
      have hundo : session.saved.undo = some ⟨past, state,
          (true, session.saved.present) :: session.saved.future⟩ := by
        rw [History.undo, hpast]
      rw [hundo] at himages
      rw [restored_iff magick (move_image himages), hmodulation]
  | redo =>
      obtain ⟨himages, hmodulation, -⟩ := redo_images session.editor
      rw [← htracks.images, History.map_redo] at himages
      refine forall_congr' fun state ↦ forall_congr' fun future ↦ forall_congr' fun hfuture ↦ ?_
      have hredo : session.saved.redo = some
          ⟨(true, session.saved.present) :: session.saved.past, state, future⟩ := by
        rw [History.redo, hfuture]
      rw [hredo] at himages
      rw [restored_iff magick (move_image himages), hmodulation]

/-- In a run every undo and redo of a successful edit restores the whole state exactly when each
finds the remembered values of the state it goes to: the stacks hold the images alone. -/
theorem undo_restores_iff (editor : ImageEditor I) (calls : List Call) :
    Runs.Along (Session.step magick) (Restores magick) (Session.start editor) calls ↔
      Runs.Along (Session.step magick) SameModulation (Session.start editor) calls :=
  Runs.along_congr (fun _ call htracks ↦ tracks_step magick htracks call)
    (fun _ call htracks ↦ restores_iff magick htracks call) (tracks_start editor)

/-! ## An image of a size -/

/-- Images of which only the size is known. Cropping to an area outside the image throws. -/
def sizes : Magick (Nat × Nat) where
  columns := Prod.fst
  rows := Prod.snd
  baseColumns := Prod.fst
  baseRows := Prod.snd
  resize _ := some
  rotate _ := some
  flop := some
  flip := some
  crop
    | .area width height x y, image =>
      if x.toInt < image.1 ∧ y.toInt < image.2 then
        some (width.toNatClampNeg, height.toNatClampNeg)
      else none
    | _, _ => none
  modulate _ _ _ := some
  sigmoidalContrast _ _ _ := some
  gamma _ := some
  sharpen _ _ := some
  blur _ _ := some
  sepiaTone _ := some
  vignette := some
  swirl _ := some
  implode _ := some
  draw _ := some

/-- An editor with a loaded image. -/
def loadedEditor : ImageEditor (Nat × Nat) where
  image := (100, 100)
  imageLoaded := true
  undoStack := []
  redoStack := []
  modulation := {}

/-- After a change of the brightness is undone, the editor still remembers it. -/
theorem brightness_survives_undo :
    ¬ Runs.Along (Session.step sizes) (Restores sizes) (Session.start loadedEditor)
      [.edit (.adjustBrightness 20), .undo] := by
  intro h
  have hrestored := (h.2.1 _ _ rfl).same
  exact absurd (congrArg (·.modulation.brightness) hrestored) (by decide +kernel)

/-- A crop that throws leaves the image on the undo stack. -/
theorem failed_crop_saves_image :
    ¬ ((perform (EditCall.edit sizes (.crop 500 500 10 10)) loadedEditor).2 = false →
      (perform (EditCall.edit sizes (.crop 500 500 10 10)) loadedEditor).1 = loadedEditor) := by
  intro h
  exact absurd (congrArg (·.undoStack) (h (by decide +kernel))) (by decide +kernel)

end PrintFlow.ImageEditor
