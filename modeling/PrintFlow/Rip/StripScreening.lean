import PrintFlow.Rip.Screen

/-!
# Strip screening computes the full frame

The pipeline interleaves the rows of its channels and can stop at any line. What it hands to the
writer for a channel is at every moment the beginning of the lines of that channel's screen, and all
of them at the end of a run that succeeds. `strip_screening_eq_full_frame` compares this with the
result of the full-frame engine. It counts in natural numbers, and so as the source does where
`Screening.CoordinatesFit` holds.
-/

namespace PrintFlow.BoundedRasterPipeline

open Interaction Screening

/-- The exchanges of a run. -/
abbrev Trace := List (Event PipelineCall PipelineAnswer)

/-- The numbered line an event hands to the writer for a channel. -/
def eventLine (channel : Nat) : Event PipelineCall PipelineAnswer → Option (Nat × Bytes)
  | ⟨.writeLine logicalChannel row packed, _⟩ =>
    if logicalChannel = channel then some (row, packed) else none
  | ⟨.isCanceled, _⟩ => none

/-- The numbered lines handed to the writer for a channel, in order. -/
def written (channel : Nat) (trace : Trace) : List (Nat × Bytes) :=
  trace.filterMap (eventLine channel)

/-- The environment neither canceled nor refused a line. -/
def Undisturbed (trace : Trace) : Prop :=
  ∀ event ∈ trace, match event with
    | ⟨.isCanceled, canceled⟩ => canceled = false
    | ⟨.writeLine .., refused⟩ => refused = none

@[simp] theorem written_nil (channel : Nat) : written channel [] = [] := rfl

@[simp] theorem written_append (channel : Nat) (first second : Trace) :
    written channel (first ++ second) = written channel first ++ written channel second :=
  List.filterMap_append

@[simp] theorem written_canceled (channel : Nat) (canceled : Bool) (rest : Trace) :
    written channel (⟨.isCanceled, canceled⟩ :: rest) = written channel rest := rfl

theorem written_line_same (channel row : Nat) (packed : Bytes) (refused : Option String)
    (rest : Trace) :
    written channel (⟨.writeLine channel row packed, refused⟩ :: rest) =
      (row, packed) :: written channel rest := by
  simp [written, eventLine]

theorem written_line_other {channel other : Nat} (h : channel ≠ other) (row : Nat) (packed : Bytes)
    (refused : Option String) (rest : Trace) :
    written other (⟨.writeLine channel row packed, refused⟩ :: rest) = written other rest := by
  simp [written, eventLine, h]

theorem Undisturbed.left {first second : Trace} (h : Undisturbed (first ++ second)) :
    Undisturbed first :=
  fun event hevent ↦ h event (List.mem_append_left _ hevent)

theorem Undisturbed.right {first second : Trace} (h : Undisturbed (first ++ second)) :
    Undisturbed second :=
  fun event hevent ↦ h event (List.mem_append_right _ hevent)

/-! ## One channel -/

/-- Where a channel stands after some rows: what it has emitted, with what it holds, is what its
screen makes of these rows. -/
structure Standing (screen : Screen) (rowsDone : Nat) (lines : List (Nat × Bytes))
    (state : ScreenState) : Prop where
  config : state.config = screen.config
  image : state.mask.image = screen.mask
  offsetX : state.offsetX = screen.offsetX
  offsetY : state.offsetY = screen.offsetY
  emitted : ∃ emitted : List ScreenRow, lines = emitted.map Screen.line ∧
    if screen.config.enablePromotion then
      RowScan.Holds screen.filter (screen.rawRows rowsDone) emitted state.rows
    else emitted = screen.rawRows rowsDone ∧ state.rows = []

theorem raw_rows_prefix (screen : Screen) {n : Nat} (hn : n ≤ screen.height) :
    ∃ rest, screen.rawRows screen.height = screen.rawRows n ++ rest := by
  refine ⟨(List.range' n (screen.height - n)).map screen.rawRow, ?_⟩
  have hrange : List.range n ++ List.range' n (screen.height - n) = List.range screen.height := by
    rw [List.range_eq_range', List.range_eq_range']
    have happend := List.range'_append_1 (s := 0) (m := n) (n := screen.height - n)
    rwa [Nat.zero_add, Nat.add_sub_cancel' hn] at happend
  rw [Screen.rawRows, Screen.rawRows, ← List.map_append, hrange]

/-- What a channel has emitted is the beginning of its lines. -/
theorem Standing.lines_prefix {screen : Screen} {rowsDone : Nat} {lines : List (Nat × Bytes)}
    {state : ScreenState} (h : Standing screen rowsDone lines state)
    (hrows : rowsDone ≤ screen.height) : lines <+: screen.lines := by
  obtain ⟨emitted, rfl, hemitted⟩ := h.emitted
  obtain ⟨rest, hrest⟩ := raw_rows_prefix screen hrows
  refine List.IsPrefix.map Screen.line ?_
  rw [Screen.promoted, hrest]
  by_cases hpromotion : screen.config.enablePromotion = true
  · rw [if_pos hpromotion] at hemitted ⊢
    exact hemitted.emitted_prefix _ rest
  · rw [if_neg hpromotion] at hemitted ⊢
    rw [hemitted.1]
    exact List.prefix_append _ rest

/-- What a channel has emitted and holds after all rows are its lines. -/
theorem Standing.lines_held {screen : Screen} {lines : List (Nat × Bytes)} {state : ScreenState}
    (h : Standing screen screen.height lines state) :
    lines ++ state.rows.map Screen.line = screen.lines := by
  obtain ⟨emitted, rfl, hemitted⟩ := h.emitted
  rw [Screen.lines, Screen.promoted]
  by_cases hpromotion : screen.config.enablePromotion = true
  · rw [if_pos hpromotion] at hemitted ⊢
    rw [← List.map_append, hemitted.image]
  · rw [if_neg hpromotion] at hemitted ⊢
    rw [hemitted.1, hemitted.2, List.map_nil, List.append_nil]

/-- What a piece of the program does to the lines of one channel. -/
structure LineEffect (channel : Nat) (trace : Trace) (line : List (Nat × Bytes)) : Prop where
  own : written channel trace = line
  others : ∀ other, channel ≠ other → written other trace = []

/-- Asking for cancellation writes nothing, and fails only when the job was canceled. -/
theorem check_canceled_meets : Meets checkCanceled.run fun trace result ↦
    (∀ channel, written channel trace = []) ∧ (result ≠ .ok () → ¬ Undisturbed trace) := by
  refine .call_bind ?_
  intro canceled
  cases canceled with
  | true =>
      refine .pure ⟨fun _ ↦ rfl, fun _ h ↦ ?_⟩
      have hcanceled : true = false := h _ (List.mem_cons_self ..)
      cases hcanceled
  | false => exact .pure ⟨fun _ ↦ rfl, fun h ↦ absurd rfl h⟩

/-- The first row held is handed to the writer. It is dropped unless the writer refuses it. -/
theorem emit_front_row_meets (state : ScreenState) (channel : Nat) {row : ScreenRow}
    {rest : List ScreenRow} (hrows : state.rows = row :: rest) :
    Meets (emitFrontRow state channel).run fun trace result ↦
      LineEffect channel trace [Screen.line row] ∧
        (result = .ok { state with rows := rest } ∨
          (∃ message, result = .error message) ∧ ¬ Undisturbed trace) := by
  have hline : ∀ refused, LineEffect channel
      [⟨.writeLine channel row.y (packRow row.dots row.dots.length), refused⟩]
      [Screen.line row] := by
    intro refused
    refine ⟨written_line_same channel _ _ _ _, ?_⟩
    intro other hother
    exact written_line_other hother _ _ _ _
  unfold emitFrontRow
  rw [hrows]
  refine .call_bind ?_
  intro refused
  cases refused with
  | some message =>
      refine .pure ⟨hline _, .inr ⟨⟨message, rfl⟩, ?_⟩⟩
      intro h
      have hrefused : some message = none := h _ (List.mem_cons_self ..)
      cases hrefused
  | none => exact .pure ⟨hline _, .inl rfl⟩

/-- What comes before without writing does not count. -/
theorem LineEffect.after {channel : Nat} {before trace : Trace} {line : List (Nat × Bytes)}
    (h : LineEffect channel trace line) (hbefore : ∀ channel, written channel before = []) :
    LineEffect channel (before ++ trace) line := by
  refine ⟨?_, ?_⟩
  · rw [written_append, hbefore, h.own]
    rfl
  · intro other hother
    rw [written_append, hbefore, h.others other hother]
    rfl

/-- How a channel stands when a line of it ends a run or was screened. -/
def LineOutcome (screen : Screen) (rowsDone : Nat) (lines : List (Nat × Bytes)) (trace : Trace) :
    Except String ScreenState → Prop
  | .ok state => Standing screen rowsDone lines state
  | .error _ => lines <+: screen.lines ∧ ¬ Undisturbed trace

theorem LineOutcome.after {screen : Screen} {rowsDone : Nat} {lines : List (Nat × Bytes)}
    {trace : Trace} {result : Except String ScreenState}
    (h : LineOutcome screen rowsDone lines trace result) (before : Trace) :
    LineOutcome screen rowsDone lines (before ++ trace) result := by
  cases result with
  | ok state => exact h
  | error message => exact ⟨h.1, fun hundisturbed ↦ h.2 hundisturbed.right⟩

/-- Emitting a row of a channel that stands well afterwards. -/
theorem emit_row_meets {screen : Screen} {rowsDone : Nat} {lines : List (Nat × Bytes)}
    {state : ScreenState} {row : ScreenRow} {rest : List ScreenRow}
    (hrows : state.rows = row :: rest) (hdone : rowsDone ≤ screen.height)
    (hnext : Standing screen rowsDone (lines ++ [Screen.line row]) { state with rows := rest })
    (channel : Nat) :
    Meets (emitFrontRow state channel).run fun trace result ↦
      ∃ line, LineEffect channel trace line ∧
        LineOutcome screen rowsDone (lines ++ line) trace result := by
  refine (emit_front_row_meets state channel hrows).mono ?_
  intro trace result ⟨heffect, hresult⟩
  refine ⟨[Screen.line row], heffect, ?_⟩
  rcases hresult with hresult | ⟨⟨message, hresult⟩, hdisturbed⟩
  · rw [hresult]
    exact hnext
  · rw [hresult]
    exact ⟨hnext.lines_prefix hdone, hdisturbed⟩

/-- Screening the next row of a channel keeps its standing. -/
theorem screen_line_meets {screen : Screen} {rowsDone : Nat} {lines : List (Nat × Bytes)}
    {state : ScreenState} (h : Standing screen rowsDone lines state)
    (hrow : rowsDone < screen.height) (channel : Nat) :
    Meets (screenLine screen.width screen.height screen.parameters state channel rowsDone
        (Plane.row screen.tone screen.width rowsDone)).run fun trace result ↦
      ∃ line, LineEffect channel trace line ∧
        LineOutcome screen (rowsDone + 1) (lines ++ line) trace result := by
  have hlines_done := h.lines_prefix (Nat.le_of_lt hrow)
  have houtput : screenRow state.config state.mask.image.width state.offsetX
      (state.mask.row (rowsDone + state.offsetY)).1 screen.width rowsDone
      (Plane.row screen.tone screen.width rowsDone) = screen.rawRow rowsDone := by
    rw [MaskRows.row_fst, h.config, h.image, h.offsetX, h.offsetY]
    rfl
  unfold screenLine
  refine Meets.except_bind check_canceled_meets ?_ ?_
  · intro before _ ⟨hbefore, _⟩
    dsimp only
    rw [houtput]
    suffices hline : Meets (ExceptT.run _) fun trace result ↦
        ∃ line, LineEffect channel trace line ∧
          LineOutcome screen (rowsDone + 1) (lines ++ line) trace result from
      hline.mono fun trace result ⟨line, heffect, houtcome⟩ ↦
        ⟨line, heffect.after hbefore, houtcome.after before⟩
    obtain ⟨emitted, hlines, hemitted⟩ := h.emitted
    by_cases hpromotion : screen.config.enablePromotion = true
    · rw [if_pos (by rw [h.config]; exact hpromotion)]
      rw [if_pos hpromotion] at hemitted
      have hpush := hemitted.push screen.filter (screen.rawRow rowsDone)
      rw [← Screen.raw_rows_succ] at hpush
      -- A full window promotes its second row and emits the first; a shorter one only grows.
      by_cases hfull : state.rows.length = 3
      · obtain ⟨above, center, below, hwindow⟩ := List.length_eq_three.mp hfull
        rw [hwindow] at hpush ⊢
        refine emit_row_meets rfl hrow ?_ channel
        refine ⟨h.config, (MaskRows.row_image _ _).trans h.image, h.offsetX, h.offsetY,
          emitted ++ [above], ?_, ?_⟩
        · rw [hlines, List.map_append]
          rfl
        · rw [if_pos hpromotion]
          exact hpush
      · have hheld := RowScan.push_of_not_full screen.filter hfull (screen.rawRow rowsDone)
        rw [hheld, List.append_nil] at hpush
        have hlength := hpush.held_length
        split
        · next heq =>
            have hfour := congrArg List.length heq
            rw [hfour] at hlength
            simp only [List.length_cons, List.length_nil] at hlength
            omega
        · refine .pure ⟨[], ⟨rfl, fun _ _ ↦ rfl⟩, ?_⟩
          refine ⟨h.config, (MaskRows.row_image _ _).trans h.image, h.offsetX, h.offsetY,
            emitted, ?_, ?_⟩
          · rw [hlines, List.append_nil]
          · rw [if_pos hpromotion]
            exact hpush
    · rw [if_neg (by rw [h.config]; exact hpromotion)]
      rw [if_neg hpromotion] at hemitted
      obtain ⟨hall, hnone⟩ := hemitted
      rw [hnone]
      refine emit_row_meets rfl hrow ?_ channel
      refine ⟨h.config, (MaskRows.row_image _ _).trans h.image, h.offsetX, h.offsetY,
        emitted ++ [screen.rawRow rowsDone], ?_, ?_⟩
      · rw [hlines, List.map_append]
        rfl
      · rw [if_neg hpromotion, hall, Screen.raw_rows_succ]
        exact ⟨rfl, rfl⟩
  · intro before message ⟨hbefore, hdisturbed⟩
    refine ⟨[], ⟨hbefore channel, fun other _ ↦ hbefore other⟩, ?_⟩
    rw [List.append_nil]
    exact ⟨hlines_done, hdisturbed (by simp)⟩

/-! ## All channels -/

/-- The lines of a channel, and none for a number that is no channel. -/
def channelLines (screens : List Screen) (channel : Nat) : List (Nat × Bytes) :=
  screens[channel]?.elim [] Screen.lines

/-- The channels from a number on stand where the exchanges so far have brought them. -/
def Standings (screens : List Screen) (rowsDone : Nat) (trace : Trace) :
    Nat → List ScreenState → Prop
  | channel, [] => channel = screens.length
  | channel, state :: states =>
    (∃ screen, screens[channel]? = some screen ∧
      Standing screen rowsDone (written channel trace) state) ∧
    Standings screens rowsDone trace (channel + 1) states

/-- What was written is the beginning of the lines of each channel. -/
def InOrder (screens : List Screen) (trace : Trace) : Prop :=
  ∀ channel, written channel trace <+: channelLines screens channel

/-- The channels from a number on after a piece of a run: well placed, or stopped by the
environment. -/
def RowsOutcome (screens : List Screen) (rowsDone channel : Nat) (trace : Trace) :
    Except String (List ScreenState) → Prop
  | .ok states => Standings screens rowsDone trace channel states
  | .error _ => ¬ Undisturbed trace

/-- The provider has every strip of an image. -/
def Delivers (toneProvider : Nat → Nat → Except String (List Bytes)) (height : Nat) : Prop :=
  ∀ firstRow rowCount, 0 < rowCount → firstRow + rowCount ≤ height →
    ∃ tones, toneProvider firstRow rowCount = .ok tones

/-- The channels after some strips: well placed, or stopped by the environment or for want of a
strip. -/
def StripsOutcome (screens : List Screen) (height : Nat)
    (toneProvider : Nat → Nat → Except String (List Bytes)) (trace : Trace) :
    Except String (List ScreenState) → Prop
  | .ok states => Standings screens height trace 0 states
  | .error _ => ¬ (Undisturbed trace ∧ Delivers toneProvider height)

/-- All screens have these dimensions and promotion parameters. -/
def Uniform (screens : List Screen) (width height : Nat) (parameters : Promotion) : Prop :=
  ∀ screen ∈ screens, screen.width = width ∧ screen.height = height ∧
    screen.parameters = parameters

theorem Standings.length {screens : List Screen} {rowsDone channel : Nat} {trace : Trace}
    {states : List ScreenState} (h : Standings screens rowsDone trace channel states) :
    channel + states.length = screens.length := by
  induction states generalizing channel with
  | nil => exact h
  | cons state states ih =>
      have hrest := ih h.2
      rw [List.length_cons]
      omega

/-- Lines of other channels do not change where a channel stands. -/
theorem Standings.after {screens : List Screen} {rowsDone channel : Nat} {before : Trace}
    {states : List ScreenState} (h : Standings screens rowsDone before channel states)
    (trace : Trace) (hquiet : ∀ other, channel ≤ other → written other trace = []) :
    Standings screens rowsDone (before ++ trace) channel states := by
  induction states generalizing channel with
  | nil => exact h
  | cons state states ih =>
      obtain ⟨⟨screen, hscreen, hstanding⟩, hrest⟩ := h
      refine ⟨⟨screen, hscreen, ?_⟩, ih hrest fun other hother ↦ hquiet other (by omega)⟩
      rw [written_append, hquiet channel (Nat.le_refl channel), List.append_nil]
      exact hstanding

/-- A line of one channel keeps all channels in order. -/
theorem InOrder.after {screens : List Screen} {before trace : Trace} (h : InOrder screens before)
    {channel : Nat} {line : List (Nat × Bytes)} (heffect : LineEffect channel trace line)
    (hline : written channel before ++ line <+: channelLines screens channel) :
    InOrder screens (before ++ trace) := by
  intro other
  rw [written_append]
  by_cases hother : channel = other
  · subst hother
    rwa [heffect.own]
  · rw [heffect.others other hother, List.append_nil]
    exact h other

section Rows

variable {screens : List Screen} {width height : Nat} {parameters : Promotion}
  (huniform : Uniform screens width height parameters)
include huniform

/-- Screening a row of every channel takes each of them one row on. -/
theorem screen_channel_rows_meets {rowsDone : Nat} (hrow : rowsDone < height) {channel : Nat}
    {before : Trace} {states : List ScreenState}
    (h : Standings screens rowsDone before channel states) (horder : InOrder screens before) :
    Meets (screenChannelRows width height parameters rowsDone channel states
        ((screens.drop channel).map fun screen ↦
          Plane.row screen.tone screen.width rowsDone)).run fun trace result ↦
      (∀ other, other < channel → written other trace = []) ∧
        InOrder screens (before ++ trace) ∧
        RowsOutcome screens (rowsDone + 1) channel (before ++ trace) result := by
  -- The channels behind this one keep their standing, because its events write no line of theirs.
  induction states generalizing channel before with
  | nil =>
      have hend : channel = screens.length := h
      subst hend
      rw [List.drop_length]
      refine .pure ⟨fun _ _ ↦ rfl, ?_, ?_⟩
      · rw [List.append_nil]
        exact horder
      · exact rfl
  | cons state states ih =>
      obtain ⟨⟨screen, hscreen, hstanding⟩, hrest⟩ := h
      obtain ⟨hlt, hget⟩ := List.getElem?_eq_some_iff.mp hscreen
      obtain ⟨hwidth, hheight, hparameters⟩ := huniform screen (List.mem_of_getElem? hscreen)
      have hlines : channelLines screens channel = screen.lines := by
        rw [channelLines, hscreen]
        rfl
      rw [List.drop_eq_getElem_cons hlt, hget, List.map_cons, screenChannelRows]
      have hmeets := screen_line_meets hstanding (hheight ▸ hrow) channel
      rw [hwidth, hheight, hparameters] at hmeets
      rw [hwidth]
      refine Meets.except_bind hmeets ?_ ?_
      · intro first state' ⟨line, heffect, hnext⟩
        have hnext' : Standing screen (rowsDone + 1)
          (written channel (before ++ first)) state' := by
          rw [written_append, heffect.own]
          exact hnext
        have horder' : InOrder screens (before ++ first) := by
          refine horder.after heffect ?_
          rw [hlines]
          exact Standing.lines_prefix hnext (hheight ▸ hrow)
        have hrest' := hrest.after first fun other hother ↦
          heffect.others other (by omega)
        refine Meets.except_bind (ih hrest' horder') ?_ ?_
        · intro second states' ⟨hquiet, hordered, hstandings⟩
          refine .pure ⟨?_, ?_, ?_⟩
          · intro other hother
            rw [List.append_nil, written_append, heffect.others other (by omega),
              hquiet other (by omega)]
            rfl
          · rw [List.append_nil, ← List.append_assoc]
            exact hordered
          · rw [List.append_nil, ← List.append_assoc]
            refine ⟨⟨screen, hscreen, ?_⟩, hstandings⟩
            rw [written_append, hquiet channel (Nat.lt_succ_self channel), List.append_nil]
            exact hnext'
        · intro second message ⟨hquiet, hordered, hdisturbed⟩
          rw [List.append_assoc] at hordered hdisturbed
          refine ⟨?_, hordered, hdisturbed⟩
          intro other hother
          rw [written_append, heffect.others other (by omega), hquiet other (by omega)]
          rfl
      · intro first message ⟨line, heffect, hlines_done, hdisturbed⟩
        refine ⟨fun other hother ↦ heffect.others other (by omega), ?_, ?_⟩
        · exact horder.after heffect (by rwa [hlines])
        · exact fun hundisturbed ↦ hdisturbed hundisturbed.right

/-- The rows of a strip take every channel to the end of the strip. -/
theorem screen_strip_rows_meets {firstRow rowCount : Nat} (hstrip : firstRow + rowCount ≤ height)
    (rest : Nat) {localRow : Nat} (hlocal : localRow + rest = rowCount) {before : Trace}
    {states : List ScreenState}
    (h : Standings screens (firstRow + localRow) before 0 states)
    (horder : InOrder screens before) :
    Meets (screenStripRows width height parameters firstRow
        (screens.map fun screen ↦ Plane.strip screen.tone screen.width firstRow rowCount)
        (List.range' localRow rest) states).run fun trace result ↦
      InOrder screens (before ++ trace) ∧
        RowsOutcome screens (firstRow + rowCount) 0 (before ++ trace) result := by
  -- Every channel stands at `firstRow + localRow` between two rows of the strip.
  induction rest generalizing localRow before states with
  | zero =>
      have hdone : localRow = rowCount := hlocal
      subst hdone
      refine .pure ⟨?_, ?_⟩
      · rwa [List.append_nil]
      · rwa [List.append_nil]
  | succ rest ih =>
      have htones : ((screens.map fun screen ↦
            Plane.strip screen.tone screen.width firstRow rowCount).map
              fun tone ↦ Plane.row tone width localRow) =
          (screens.drop 0).map fun screen ↦
            Plane.row screen.tone screen.width (firstRow + localRow) := by
        rw [List.map_map, List.drop_zero]
        refine List.map_congr_left ?_
        intro screen hscreen
        show Plane.row (Plane.strip _ _ _ _) width localRow = _
        rw [(huniform screen hscreen).1, Plane.row_strip (by omega)]
      rw [List.range'_succ, screenStripRows, htones]
      refine Meets.except_bind (screen_channel_rows_meets huniform (by omega) h horder) ?_ ?_
      · intro first states' ⟨_, hordered, hstandings⟩
        have hlocal' : localRow + 1 + rest = rowCount := by omega
        have hnext := ih hlocal' hstandings hordered
        simp only [List.append_assoc] at hnext
        exact hnext
      · intro first message ⟨_, hordered, hdisturbed⟩
        exact ⟨hordered, hdisturbed⟩

/-- The strips take every channel to the last row. -/
theorem screen_strips_meets {toneProvider : Nat → Nat → Except String (List Bytes)}
    (hprovider : ∀ firstRow rowCount, 0 < rowCount → firstRow + rowCount ≤ height →
      ∀ tones, toneProvider firstRow rowCount = .ok tones →
        tones = screens.map fun screen ↦ Plane.strip screen.tone screen.width firstRow rowCount)
    {strips : List (Nat × Nat)} {firstRow : Nat} (hstrips : Plane.Partition height firstRow strips)
    {before : Trace} {states : List ScreenState}
    (h : Standings screens firstRow before 0 states) (horder : InOrder screens before) :
    Meets (screenStrips width height parameters toneProvider strips states).run fun trace result ↦
      InOrder screens (before ++ trace) ∧
        StripsOutcome screens height toneProvider (before ++ trace) result := by
  -- The strips partition the rows, so the next strip starts where this one leaves every channel.
  induction strips generalizing firstRow before states with
  | nil =>
      have hdone : firstRow = height := hstrips
      subst hdone
      refine .pure ⟨?_, ?_⟩
      · rwa [List.append_nil]
      · rwa [List.append_nil]
  | cons strip rest ih =>
      obtain ⟨start, rowCount⟩ := strip
      obtain ⟨rfl, hcount, hrest⟩ := hstrips
      have hstrip := hrest.le
      have hquiet : ∀ {first : Trace}, (∀ channel, written channel first = []) →
          InOrder screens (before ++ first) := by
        intro first hfirst channel
        rw [written_append, hfirst, List.append_nil]
        exact horder channel
      refine Meets.except_bind check_canceled_meets ?_ ?_
      · intro first _ ⟨hfirst, _⟩
        have hstandings := h.after first fun other _ ↦ hfirst other
        cases hdelivered : toneProvider start rowCount with
        | error message =>
            refine .pure ⟨?_, ?_⟩
            · rw [List.append_nil]
              exact hquiet hfirst
            · intro ⟨_, hdelivers⟩
              obtain ⟨tones, htones⟩ := hdelivers start rowCount hcount hstrip
              cases hdelivered.symm.trans htones
        | ok tones =>
            obtain rfl := hprovider start rowCount hcount hstrip tones hdelivered
            dsimp only
            rw [if_neg (not_not_intro ?_), if_neg ?_]
            · have hlocal : 0 + rowCount = rowCount := Nat.zero_add rowCount
              have hrows := screen_strip_rows_meets huniform hstrip rowCount hlocal hstandings
                (hquiet hfirst)
              rw [← List.range_eq_range'] at hrows
              simp only [List.append_assoc] at hrows
              refine Meets.except_bind hrows ?_ ?_
              · intro second states' ⟨hordered, hdone⟩
                have hnext := ih hrest hdone hordered
                simp only [List.append_assoc] at hnext
                exact hnext
              · intro second message ⟨hordered, hdisturbed⟩
                exact ⟨hordered, fun ⟨hundisturbed, _⟩ ↦ hdisturbed hundisturbed⟩
            · rw [Bool.not_eq_true, List.any_eq_false]
              intro tone htone
              obtain ⟨screen, hscreen, rfl⟩ := List.mem_map.mp htone
              obtain ⟨hwidth, hheight, -⟩ := huniform screen hscreen
              have hlength := Plane.strip_length screen.tone_length (hheight ▸ hstrip)
              rw [decide_eq_true_eq, not_not, hlength, hwidth]
            · rw [List.length_map, ← h.length, Nat.zero_add]
      · intro first message ⟨hfirst, hdisturbed⟩
        exact ⟨hquiet hfirst, fun ⟨hundisturbed, _⟩ ↦ hdisturbed (by simp) hundisturbed.right⟩

end Rows

/-! ## The end of a run -/

/-- Flushing hands the rows a channel holds to the writer, until one is refused. -/
theorem flush_rows_meets (channel : Nat) {rows : List ScreenRow} {state : ScreenState}
    (hrows : state.rows = rows) :
    Meets (flushRows channel rows state).run fun trace result ↦
      ∃ line, LineEffect channel trace line ∧ line <+: rows.map Screen.line ∧
        (result = .ok () ∧ line = rows.map Screen.line ∨
          (∃ message, result = .error message) ∧ ¬ Undisturbed trace) := by
  -- Every round hands one held row on; the first one refused ends the loop.
  induction rows generalizing state with
  | nil => exact .pure ⟨[], ⟨rfl, fun _ _ ↦ rfl⟩, List.prefix_refl [], .inl ⟨rfl, rfl⟩⟩
  | cons row rest ih =>
      refine Meets.except_bind (emit_front_row_meets state channel hrows) ?_ ?_
      · intro first state' ⟨heffect, hresult⟩
        rcases hresult with hstate | ⟨⟨message, herror⟩, _⟩
        · obtain rfl := Except.ok.inj hstate
          refine (ih rfl).mono ?_
          intro second result ⟨line, hline, hlines_done, hresult⟩
          refine ⟨Screen.line row :: line, ⟨?_, ?_⟩, ?_, ?_⟩
          · rw [written_append, heffect.own, hline.own]
            rfl
          · intro other hother
            rw [written_append, heffect.others other hother, hline.others other hother]
            rfl
          · exact (List.prefix_cons_inj _).mpr hlines_done
          · rcases hresult with ⟨hok, rfl⟩ | ⟨herror, hdisturbed⟩
            · exact .inl ⟨hok, rfl⟩
            · exact .inr ⟨herror, fun hundisturbed ↦ hdisturbed hundisturbed.right⟩
        · cases herror
      · intro first message ⟨heffect, hresult⟩
        rcases hresult with hstate | ⟨_, hdisturbed⟩
        · cases hstate
        · refine ⟨[Screen.line row], heffect, ?_, .inr ⟨⟨message, rfl⟩, hdisturbed⟩⟩
          exact ⟨rest.map Screen.line, rfl⟩

/-- Flushing completes the lines of every channel, unless a line is refused. -/
theorem flush_states_meets {screens : List Screen} {height : Nat}
    (hheight : ∀ screen ∈ screens, screen.height = height) {channel : Nat} {before : Trace}
    {states : List ScreenState} (h : Standings screens height before channel states)
    (horder : InOrder screens before) :
    Meets (flushStates channel states).run fun trace result ↦
      (∀ other, other < channel → written other trace = []) ∧ InOrder screens (before ++ trace) ∧
        (result = .ok () ∧ (∀ other, channel ≤ other →
            written other (before ++ trace) = channelLines screens other) ∨
          ¬ Undisturbed trace ∧ result ≠ .ok ()) := by
  -- The channels that were flushed have all of their lines, and the ones behind keep theirs.
  induction states generalizing channel before with
  | nil =>
      have hend : channel = screens.length := h
      subst hend
      refine .pure ⟨fun _ _ ↦ rfl, by rwa [List.append_nil], .inl ⟨rfl, ?_⟩⟩
      intro other hother
      have hnone : channelLines screens other = [] := by
        rw [channelLines, List.getElem?_eq_none hother]
        rfl
      have hlines_done := horder other
      rw [hnone] at hlines_done ⊢
      rw [List.append_nil]
      exact List.prefix_nil.mp hlines_done
  | cons state states ih =>
      obtain ⟨⟨screen, hscreen, hstanding⟩, hrest⟩ := h
      have hlines : channelLines screens channel = screen.lines := by
        rw [channelLines, hscreen]
        rfl
      have hheld := Standing.lines_held (hheight screen (List.mem_of_getElem? hscreen) ▸ hstanding)
      refine Meets.except_bind (flush_rows_meets channel rfl) ?_ ?_
      · intro first _ ⟨line, heffect, hlines_done, hresult⟩
        have horder' : InOrder screens (before ++ first) := by
          refine horder.after heffect ?_
          rw [hlines, ← hheld]
          exact (List.prefix_append_right_inj _).mpr hlines_done
        rcases hresult with ⟨_, hall⟩ | ⟨⟨message, herror⟩, _⟩
        · have hrest' := hrest.after first fun other hother ↦
            heffect.others other (by omega)
          refine (ih hrest' horder').mono ?_
          intro second result ⟨hquiet, hordered, hresult⟩
          refine ⟨?_, by rwa [← List.append_assoc], ?_⟩
          · intro other hother
            rw [written_append, heffect.others other (by omega), hquiet other (by omega)]
            rfl
          · rcases hresult with ⟨hok, hcomplete⟩ | ⟨hdisturbed, herror⟩
            · refine .inl ⟨hok, ?_⟩
              intro other hother
              rw [← List.append_assoc]
              by_cases hown : channel = other
              · subst hown
                rw [written_append, hquiet channel (Nat.lt_succ_self channel), List.append_nil,
                  written_append, heffect.own, hall, hlines, hheld]
              · exact hcomplete other (by omega)
            · exact .inr ⟨fun hundisturbed ↦ hdisturbed hundisturbed.right, herror⟩
        · cases herror
      · intro first message ⟨line, heffect, hlines_done, hresult⟩
        refine ⟨fun other hother ↦ heffect.others other (by omega), ?_, ?_⟩
        · refine horder.after heffect ?_
          rw [hlines, ← hheld]
          exact (List.prefix_append_right_inj _).mpr hlines_done
        · rcases hresult with ⟨hok, _⟩ | ⟨_, hdisturbed⟩
          · cases hok
          · exact .inr ⟨hdisturbed, by simp⟩

/-- A strip has at least one row. -/
theorem clamped_strip_rows_pos (width channels : Nat) (stripRows : Int) :
    0 < clampedStripRows width channels stripRows := by
  have hclamp : 1 ≤ clamp stripRows 1 MaximumStripRows ∧
      clamp stripRows 1 MaximumStripRows ≤ MaximumStripRows := clamp_mem (by decide)
  exact lt_min (by omega) (bounded_rows_pos ..)

/-- Opened channels are screened to the end, in order. -/
theorem screen_to_spool_meets {V : Type} [QVariantApi V] {screens : List Screen}
    {width height : Nat} {screenSeed : UInt32} {promotionParameters : QVariantMap V}
    {channels : List ScreenChannel} {openMask : String → Except String Mask}
    {toneProvider : Nat → Nat → Except String (List Bytes)} (stripRows : Int)
    (hwidth : 0 < width) (hheight : 0 < height) (hchannels : channels ≠ [])
    (huniform : Uniform screens width height (promotion promotionParameters))
    (hprovider : ∀ firstRow rowCount, 0 < rowCount → firstRow + rowCount ≤ height →
      ∀ tones, toneProvider firstRow rowCount = .ok tones →
        tones = screens.map fun screen ↦ Plane.strip screen.tone screen.width firstRow rowCount)
    {states : List ScreenState} (hopen : openStates openMask screenSeed 0 channels = .ok states)
    (hstates : Standings screens 0 [] 0 states) :
    Meets (screenToSpool width height screenSeed promotionParameters channels openMask
        toneProvider stripRows).run fun trace result ↦
      InOrder screens trace ∧
        (result = .ok () ∧ (∀ channel, written channel trace = channelLines screens channel) ∨
          ¬ (Undisturbed trace ∧ Delivers toneProvider height) ∧ result ≠ .ok ()) := by
  have hrequest : ¬ (width = 0 ∨ height = 0 ∨ channels = []) := by
    simp only [hchannels, or_false]
    omega
  have horder : InOrder screens [] := fun _ ↦ List.nil_prefix
  have hpartition : Plane.Partition height (min 0 height) (Plane.strips height _ 0) :=
    Plane.strips_partition (clamped_strip_rows_pos width channels.length stripRows) 0
  rw [Nat.zero_min] at hpartition
  rw [screenToSpool, if_neg hrequest, hopen]
  dsimp only
  refine Meets.except_bind (screen_strips_meets huniform hprovider hpartition hstates horder) ?_ ?_
  · intro first states' ⟨hordered, hdone⟩
    have hheights : ∀ screen ∈ screens, screen.height = height :=
      fun screen hscreen ↦ (huniform screen hscreen).2.1
    refine (flush_states_meets hheights hdone hordered).mono ?_
    intro second result ⟨_, hordered, hresult⟩
    refine ⟨hordered, ?_⟩
    rcases hresult with ⟨hok, hcomplete⟩ | ⟨hdisturbed, herror⟩
    · exact .inl ⟨hok, fun channel ↦ hcomplete channel (Nat.zero_le channel)⟩
    · exact .inr ⟨fun ⟨hundisturbed, _⟩ ↦ hdisturbed hundisturbed.right, herror⟩
  · intro first message ⟨hordered, hdisturbed⟩
    exact ⟨hordered, .inr ⟨hdisturbed, by simp⟩⟩

/-! ## The pipeline and the engine -/

section Agreement

variable {V : Type} [QVariantApi V] (req : MultiInkScreenEngine.ScreenRequest V)
  {maskLoader : String → Option Mask} {openMask : String → Except String Mask}
  {maskPath : String → String}

/-- A request whose channels have tones and masks has screens. -/
theorem exists_screens (channels : List MultiInkScreenEngine.ChannelRequest)
    (hmasks : ∀ channelReq ∈ channels, channelReq.maskKey ≠ "" ∧
      ∃ mask, maskLoader channelReq.maskKey = some mask)
    (htones : ∀ channelReq ∈ channels, ∃ tone, channelReq.toneBytes = some tone ∧
      tone.length = req.width * req.height) (maskPath : String → String) (ch : Nat) :
    ∃ screens, MultiInkScreenEngine.Requested req maskLoader maskPath ch channels screens := by
  induction channels generalizing ch with
  | nil => exact ⟨[], rfl⟩
  | cons channelReq channels ih =>
      obtain ⟨hkey, mask, hmask⟩ := hmasks channelReq (List.mem_cons_self ..)
      obtain ⟨tone, hbytes, htone⟩ := htones channelReq (List.mem_cons_self ..)
      obtain ⟨others, hothers⟩ := ih
        (fun other hother ↦ hmasks other (List.mem_cons_of_mem _ hother))
        (fun other hother ↦ htones other (List.mem_cons_of_mem _ hother)) (ch + 1)
      exact ⟨_, mask, tone, others, htone, hkey, hbytes, hmask, rfl, hothers⟩

/-- The screens of a request share its dimensions and promotion parameters. -/
theorem requested_uniform {ch : Nat} {channels : List MultiInkScreenEngine.ChannelRequest}
    {screens : List Screen}
    (h : MultiInkScreenEngine.Requested req maskLoader maskPath ch channels screens) :
    Uniform screens req.width req.height (promotion req.modeParams) := by
  induction channels generalizing ch screens with
  | nil =>
      have hnone : screens = [] := h
      rw [hnone]
      exact fun _ hscreen ↦ (List.not_mem_nil hscreen).elim
  | cons channelReq channels ih =>
      obtain ⟨mask, tone, others, htone, _, _, _, rfl, hrest⟩ := h
      intro screen hscreen
      rcases List.mem_cons.mp hscreen with rfl | hother
      · exact ⟨rfl, rfl, rfl⟩
      · exact ih hrest screen hother

/-- The strips of the tones of a request are those of its screens. -/
theorem requested_strips {ch : Nat} {channels : List MultiInkScreenEngine.ChannelRequest}
    {screens : List Screen}
    (h : MultiInkScreenEngine.Requested req maskLoader maskPath ch channels screens)
    (firstRow rowCount : Nat) :
    (channels.map fun channelReq ↦
        Plane.strip (channelReq.toneBytes.getD []) req.width firstRow rowCount) =
      screens.map fun screen ↦ Plane.strip screen.tone screen.width firstRow rowCount := by
  induction channels generalizing ch screens with
  | nil =>
      have hnone : screens = [] := h
      rw [hnone]
      rfl
  | cons channelReq channels ih =>
      obtain ⟨mask, tone, others, htone, _, hbytes, _, rfl, hrest⟩ := h
      rw [List.map_cons, List.map_cons, ih hrest, hbytes]
      rfl

/-- The opened channels stand before their first row. -/
theorem open_states_eq {screens : List Screen} {ch : Nat}
    {channels : List MultiInkScreenEngine.ChannelRequest}
    (h : MultiInkScreenEngine.Requested req maskLoader maskPath ch channels (screens.drop ch))
    (hch : ch ≤ screens.length)
    (hmasks : ∀ channelReq ∈ channels, ∀ mask, maskLoader channelReq.maskKey = some mask →
      openMask (maskPath channelReq.maskKey) = .ok mask) :
    ∃ states, openStates openMask req.screenSeed ch (channels.map fun channelReq ↦
        MultiInkScreenEngine.screenChannel req channelReq (maskPath channelReq.maskKey)) =
          .ok states ∧ Standings screens 0 [] ch states := by
  induction channels generalizing ch with
  | nil =>
      have hnone : screens.drop ch = [] := h
      have hlength := List.drop_eq_nil_iff.mp hnone
      exact ⟨[], rfl, by show ch = screens.length; omega⟩
  | cons channelReq channels ih =>
      obtain ⟨mask, tone, others, htone, _, _, hmask, hscreens, hrest⟩ := h
      have hlt : ch < screens.length := by
        refine Nat.lt_of_not_le fun hle ↦ ?_
        rw [List.drop_eq_nil_of_le hle] at hscreens
        cases hscreens
      rw [List.drop_eq_getElem_cons hlt] at hscreens
      obtain ⟨hscreen, hothers⟩ := List.cons.inj hscreens
      rw [← hothers] at hrest
      obtain ⟨states, hstates, hstandings⟩ := ih hrest hlt
        fun other hother ↦ hmasks other (List.mem_cons_of_mem _ hother)
      have hopen := hmasks channelReq (List.mem_cons_self ..) mask hmask
      rw [List.map_cons, openStates]
      rw [show (MultiInkScreenEngine.screenChannel req channelReq
        (maskPath channelReq.maskKey)).maskPath = maskPath channelReq.maskKey from rfl, hopen]
      dsimp only
      rw [hstates]
      refine ⟨_, rfl, ⟨_, (List.getElem?_eq_getElem hlt).trans (congrArg some hscreen), ?_⟩,
        hstandings⟩
      refine ⟨rfl, rfl, rfl, rfl, [], rfl, ?_⟩
      split
      · exact RowScan.Holds.nil _
      · exact ⟨rfl, rfl⟩

/-- The lines of a channel are the packed lines the engine gives, numbered. -/
theorem channel_lines_eq {ch : Nat} {channels : List MultiInkScreenEngine.ChannelRequest}
    {screens : List Screen}
    (h : MultiInkScreenEngine.Requested req maskLoader maskPath ch channels screens)
    (channel : Nat) :
    channelLines screens channel =
      ((screens.map MultiInkScreenEngine.packedLines).getD channel []).mapIdx Prod.mk := by
  -- Both sides number the channels from the front, so the induction goes with the channel.
  induction channels generalizing ch screens channel with
  | nil =>
      have hnone : screens = [] := h
      rw [hnone]
      rfl
  | cons channelReq channels ih =>
      obtain ⟨mask, tone, others, htone, _, _, _, rfl, hrest⟩ := h
      cases channel with
      | succ channel => exact ih hrest channel
      | zero =>
          show Screen.lines _ = (MultiInkScreenEngine.packedLines _).mapIdx Prod.mk
          rw [MultiInkScreenEngine.packedLines, MultiInkScreenEngine.screened_lines_eq,
            MultiInkScreenEngine.map_snd_numbered]

/-- Strip screening equals full-frame screening: whatever the height of the strips, the lines the
pipeline hands to the writer for a channel are the packed lines of the engine for that channel, row
after row, up to where the environment stopped the run. -/
theorem strip_screening_eq_full_frame {toneProvider : Nat → Nat → Except String (List Bytes)}
    (stripRows : Int) (hwidth : 0 < req.width) (hheight : 0 < req.height)
    (hchannels : req.channels ≠ [])
    (hmasks : ∀ channelReq ∈ req.channels, channelReq.maskKey ≠ "" ∧
      ∃ mask, maskLoader channelReq.maskKey = some mask ∧
        openMask (maskPath channelReq.maskKey) = .ok mask)
    (htones : ∀ channelReq ∈ req.channels, ∃ tone, channelReq.toneBytes = some tone ∧
      tone.length = req.width * req.height)
    (hprovider : ∀ firstRow rowCount, 0 < rowCount → firstRow + rowCount ≤ req.height →
      toneProvider firstRow rowCount = .ok (req.channels.map fun channelReq ↦
        Plane.strip (channelReq.toneBytes.getD []) req.width firstRow rowCount)) :
    ∃ allPacked : List MultiInkScreenEngine.PackedLines,
      allPacked.length = req.channels.length ∧
      (∀ lines ∈ allPacked, lines.length = req.height) ∧
      Meets (MultiInkScreenEngine.screenChannels req maskLoader)
        (MultiInkScreenEngine.Gives allPacked) ∧
      Meets (screenToSpool req.width req.height req.screenSeed req.modeParams
          (req.channels.map fun channelReq ↦
            MultiInkScreenEngine.screenChannel req channelReq (maskPath channelReq.maskKey))
          openMask toneProvider stripRows).run fun trace result ↦
        (∀ channel, written channel trace <+: (allPacked.getD channel []).mapIdx Prod.mk) ∧
        (result = .ok () → ∀ channel,
          written channel trace = (allPacked.getD channel []).mapIdx Prod.mk) ∧
        (Undisturbed trace → result = .ok ()) := by
  have hloaded : ∀ channelReq ∈ req.channels, channelReq.maskKey ≠ "" ∧
      ∃ mask, maskLoader channelReq.maskKey = some mask := by
    intro channelReq hreq
    obtain ⟨hkey, mask, hmask, _⟩ := hmasks channelReq hreq
    exact ⟨hkey, mask, hmask⟩
  have hopened : ∀ channelReq ∈ req.channels, ∀ mask, maskLoader channelReq.maskKey = some mask →
      openMask (maskPath channelReq.maskKey) = .ok mask := by
    intro channelReq hreq mask hmask
    obtain ⟨_, loaded, hloads, hopens⟩ := hmasks channelReq hreq
    rw [hopens, Option.some.inj (hloads.symm.trans hmask)]
  -- Both sides are compared with the screens of the channels: the engine gives their packed lines,
  -- and the strips hand their lines on in order.
  obtain ⟨screens, hscreens⟩ := exists_screens req req.channels hloaded
    htones maskPath 0
  have huniform := requested_uniform req hscreens
  have hstrips := requested_strips req hscreens
  obtain ⟨states, hopen, hstates⟩ := open_states_eq req (screens.drop_zero ▸ hscreens)
    (Nat.zero_le screens.length) hopened
  refine ⟨screens.map MultiInkScreenEngine.packedLines, ?_, ?_,
    MultiInkScreenEngine.screen_channels_meets req hwidth hheight hchannels hscreens, ?_⟩
  · have hlength := congrArg List.length (hstrips 0 0)
    simpa using hlength.symm
  · intro lines hlines
    obtain ⟨screen, hscreen, rfl⟩ := List.mem_map.mp hlines
    rw [MultiInkScreenEngine.packedLines, List.length_map, Screen.lines_length,
      (huniform screen hscreen).2.1]
  · refine (screen_to_spool_meets stripRows hwidth hheight (by simpa using hchannels) huniform ?_
      hopen hstates).mono ?_
    · intro firstRow rowCount hcount hrows tones htones
      rw [← Except.ok.inj ((hprovider firstRow rowCount hcount hrows).symm.trans htones), hstrips]
    · rintro trace result ⟨hordered, hresult⟩
      simp only [← channel_lines_eq req hscreens]
      refine ⟨hordered, ?_, ?_⟩
      · intro hok
        rcases hresult with ⟨_, hcomplete⟩ | ⟨_, herror⟩
        · exact hcomplete
        · exact absurd hok herror
      · intro hundisturbed
        rcases hresult with ⟨hok, _⟩ | ⟨hdisturbed, _⟩
        · exact hok
        · refine absurd ⟨hundisturbed, ?_⟩ hdisturbed
          intro firstRow rowCount hcount hrows
          exact ⟨_, hprovider firstRow rowCount hcount hrows⟩

end Agreement

/-- A request of four by four pixels in one promoted channel. -/
def squareRequest : MultiInkScreenEngine.ScreenRequest Variant where
  width := 4
  height := 4
  screenSeed := 7
  modeParams := variantMap []
  dotStrategy := { enablePromotion := true }
  channels := [{ maskKey := "k", toneBytes := some (List.replicate 16 200) }]

/-- A mask of one pixel. -/
def pixelMask : Mask where
  width := 1
  height := 1
  data := [128]
  width_pos := Nat.one_pos
  height_pos := Nat.one_pos
  data_length := rfl

theorem strip_screening_eq_full_frame_square :
    ∃ allPacked : List MultiInkScreenEngine.PackedLines,
      allPacked.length = 1 ∧
      (∀ lines ∈ allPacked, lines.length = 4) ∧
      Meets (MultiInkScreenEngine.screenChannels squareRequest fun _ ↦ some pixelMask)
        (MultiInkScreenEngine.Gives allPacked) ∧
      Meets (screenToSpool 4 4 7 (variantMap [])
          [MultiInkScreenEngine.screenChannel squareRequest
            { maskKey := "k", toneBytes := some (List.replicate 16 200) } "k.png"]
          (fun _ ↦ .ok pixelMask)
          (fun firstRow rowCount ↦ .ok [Plane.strip (List.replicate 16 200) 4 firstRow rowCount])
          3).run fun trace result ↦
        (∀ channel, written channel trace <+: (allPacked.getD channel []).mapIdx Prod.mk) ∧
        (result = .ok () → ∀ channel,
          written channel trace = (allPacked.getD channel []).mapIdx Prod.mk) ∧
        (Undisturbed trace → result = .ok ()) := by
  refine @strip_screening_eq_full_frame _ _ squareRequest _ _ (fun key ↦ key ++ ".png") _ 3
    (by decide) (by decide) (by simp [squareRequest]) ?_ ?_ ?_
  · intro channelReq hreq
    obtain rfl := List.mem_singleton.mp hreq
    exact ⟨by decide, pixelMask, rfl, rfl⟩
  · intro channelReq hreq
    obtain rfl := List.mem_singleton.mp hreq
    exact ⟨_, rfl, rfl⟩
  · intro firstRow rowCount _ _
    rfl

end PrintFlow.BoundedRasterPipeline
