import Mathlib.Data.Bool.AllAny
import PrintFlow.Library.DataStream
import PrintFlow.Library.Framing
import PrintFlow.PrinterService.Protocol

/-!
# Frames of the printer service

A message travels as the length of its body and the body, which starts with the magic number and the
version. `takeFrame` takes one message off the front of what has arrived; however the bytes were cut
on the way, the messages come out as they went in.
-/

namespace PrintFlow.PrinterServiceProtocol

open DataStream Framing

/-- `Magic`: "PFPS". -/
def magic : UInt32 := 0x50465053

/-- `Version`. -/
def version : UInt16 := 1

/-! `stream` stands for the `QDataStream` operators of `QVariantMap`. -/

variable {M : Type} (stream : Codec M)

/-- `encodeFrame`. -/
def encodeFrame (message : M) : Bytes :=
  match stream.put message with
  | none => []
  | some encoded =>
    let body := putUInt32 magic ++ putUInt16 version ++ encoded
    if body.length > maximumFrameSize.toNat then []
    else putUInt32 (UInt32.ofNat body.length) ++ body

/-- The fields of a body. -/
def getBody : Get (UInt32 × UInt16 × M) := do
  let readMagic ← getUInt32
  let readVersion ← getUInt16
  let decoded ← stream.get
  pure (readMagic, readVersion, decoded)

/-- `takeFrame`: the buffer afterwards and the status. -/
def takeFrame (buffer : Bytes) : Bytes × Decoded M String :=
  if buffer.length < 4 then (buffer, .incomplete)
  else
    match getUInt32 (buffer.take 4) with
    | none => (buffer, .invalid "Printer-service frame length is invalid.")
    | some (bodySize, _) =>
      if bodySize = 0 ∨ bodySize > maximumFrameSize then
        (buffer, .invalid "Printer-service frame length is invalid.")
      else
        let frameSize := 4 + bodySize.toNat
        if buffer.length < frameSize then (buffer, .incomplete)
        else
          -- A complete frame is taken off the buffer, whatever is in its body.
          let body := (buffer.drop 4).take bodySize.toNat
          let rest := buffer.drop frameSize
          match getBody stream body with
          | none => (rest, .invalid "Printer-service frame is corrupt.")
          | some ((readMagic, readVersion, decoded), _) =>
            if readMagic ≠ magic then (rest, .invalid "Printer-service frame is corrupt.")
            else if readVersion ≠ version then
              (rest, .invalid ("Printer-service protocol version " ++ toString readVersion ++
                " is unsupported; expected " ++ toString version ++ "."))
            else (rest, .complete decoded)

/-! ## Frames -/

variable {stream}

/-- A frame is the length of a body and the body. -/
theorem encode_frame_eq {message : M} (h : encodeFrame stream message ≠ []) :
    ∃ encoded body, stream.put message = some encoded ∧
      body = putUInt32 magic ++ putUInt16 version ++ encoded ∧
      body.length ≤ maximumFrameSize.toNat ∧
      encodeFrame stream message = putUInt32 (UInt32.ofNat body.length) ++ body := by
  unfold encodeFrame at h ⊢
  cases hput : stream.put message with
  | none =>
      rw [hput] at h
      exact absurd rfl h
  | some encoded =>
      rw [hput] at h
      dsimp only at h ⊢
      split_ifs at h ⊢ with hlong
      · exact absurd rfl h
      · exact ⟨encoded, _, rfl, rfl, not_lt.mp hlong, rfl⟩

/-- The length word of a frame. -/
structure FrameLength (length : Nat) : Prop where
  word : (UInt32.ofNat length).toNat = length
  nonzero : UInt32.ofNat length ≠ 0
  bounded : ¬ UInt32.ofNat length > maximumFrameSize

theorem frame_length {length : Nat} (hpos : 0 < length) (hmax : length ≤ maximumFrameSize.toNat) :
    FrameLength length := by
  have hmaximum : maximumFrameSize.toNat = 536870912 := rfl
  have hword : (UInt32.ofNat length).toNat = length :=
    UInt32.toNat_ofNat_of_lt (by simp only [UInt32.size]; omega)
  refine ⟨hword, fun hzero ↦ ?_, ?_⟩
  · rw [hzero, UInt32.toNat_zero] at hword
    omega
  · rw [gt_iff_lt, UInt32.lt_iff_toNat_lt, hword]
    omega

/-- Once the length of a body has arrived, a frame is taken when its body has arrived too. -/
theorem take_frame_length {length : Nat} (hlength : FrameLength length) (arrived : Bytes) :
    takeFrame stream (putUInt32 (UInt32.ofNat length) ++ arrived) =
      if arrived.length < length then
        (putUInt32 (UInt32.ofNat length) ++ arrived, .incomplete)
      else
        match getBody stream (arrived.take length) with
        | none => (arrived.drop length, .invalid "Printer-service frame is corrupt.")
        | some ((readMagic, readVersion, decoded), _) =>
          if readMagic ≠ magic then
            (arrived.drop length, .invalid "Printer-service frame is corrupt.")
          else if readVersion ≠ version then
            (arrived.drop length, .invalid ("Printer-service protocol version " ++
              toString readVersion ++ " is unsupported; expected " ++ toString version ++ "."))
          else (arrived.drop length, .complete decoded) := by
  have hfour : (putUInt32 (UInt32.ofNat length)).length = 4 := put_uint32_length _
  have htake : (putUInt32 (UInt32.ofNat length) ++ arrived).take 4 =
      putUInt32 (UInt32.ofNat length) := List.take_left' hfour
  have hread : getUInt32 (putUInt32 (UInt32.ofNat length)) = some (UInt32.ofNat length, []) :=
    get_uint32_eq_some.mpr (List.append_nil _).symm
  have hvalid : ¬ (UInt32.ofNat length = 0 ∨ UInt32.ofNat length > maximumFrameSize) :=
    not_or.mpr ⟨hlength.nonzero, hlength.bounded⟩
  have hsize : (putUInt32 (UInt32.ofNat length) ++ arrived).length = 4 + arrived.length := by
    rw [List.length_append, hfour]
  have hdrop : ∀ count, (putUInt32 (UInt32.ofNat length) ++ arrived).drop (4 + count) =
      arrived.drop count := by
    intro count
    rw [← List.drop_drop, List.drop_left' hfour]
  unfold takeFrame
  rw [if_neg (by omega), htake, hread]
  dsimp only
  rw [if_neg hvalid, hlength.word, hsize, hdrop length, List.drop_left' hfour]
  by_cases hshort : arrived.length < length
  · rw [if_pos hshort, if_pos (by omega)]
  · rw [if_neg hshort, if_neg (by omega)]

/-- The body of a frame reads back. -/
theorem get_body_encoded (hstream : stream.RoundTrips) {message : M} {encoded : Bytes}
    (hput : stream.put message = some encoded) :
    getBody stream (putUInt32 magic ++ putUInt16 version ++ encoded) =
      some ((magic, version, message), []) := by
  have hmap := hstream message encoded [] hput
  rw [List.append_nil] at hmap
  simp only [getBody, List.append_assoc, bind_apply, pure_apply, get_uint32_put, get_uint16_put,
    Option.bind_some, hmap]

/-- `takeFrame` takes a frame that has arrived, and waits for one that has not. -/
theorem take_frame_framed (hstream : stream.RoundTrips) :
    Framed (takeFrame stream) (encodeFrame stream) fun message ↦
      encodeFrame stream message ≠ [] where
  nonempty h := h
  empty := rfl
  complete {message} h rest := by
    obtain ⟨encoded, body, hput, hbody, hmax, hframe⟩ := encode_frame_eq h
    have hlength : FrameLength body.length := frame_length (by simp [hbody]) hmax
    rw [hframe, List.append_assoc, take_frame_length hlength, if_neg (by simp),
      List.take_left' rfl, List.drop_left' rfl, hbody, get_body_encoded hstream hput]
    dsimp only
    rw [if_neg (not_not.mpr rfl), if_neg (not_not.mpr rfl)]
  incomplete {message} h buffer future hsplit hfuture := by
    obtain ⟨encoded, body, hput, hbody, hmax, hframe⟩ := encode_frame_eq h
    have hlength : FrameLength body.length := frame_length (by simp [hbody]) hmax
    have hmissing := List.length_pos_iff.mpr hfuture
    rw [hframe] at hsplit
    by_cases hprefix : buffer.length < 4
    · rw [takeFrame, if_pos hprefix]
    -- the length has arrived, and not all of the body
    · rcases List.append_eq_append_iff.mp hsplit with ⟨tail, htail, -⟩ | ⟨arrived, rfl, harrived⟩
      · have hfour := congrArg List.length htail
        rw [List.length_append, put_uint32_length] at hfour
        obtain rfl : tail = [] := List.eq_nil_of_length_eq_zero (by omega)
        rw [List.append_nil] at htail
        have hshort : ([] : Bytes).length < body.length := by simp [hbody]
        rw [← htail, ← List.append_nil (putUInt32 _), take_frame_length hlength, if_pos hshort]
      · have hbytes := congrArg List.length harrived
        rw [List.length_append] at hbytes
        rw [take_frame_length hlength, if_pos (by omega)]

/-- However the frames of some messages are cut into fragments, appending each fragment and taking
frames until none is complete gives the messages in order: no call reports an invalid frame, each
takes one frame or leaves the buffer as it is, and nothing is left. -/
theorem frames_round_trip (stream : Codec M) (hstream : stream.RoundTrips)
    (messages : List M) (hmessages : ∀ message ∈ messages, encodeFrame stream message ≠ [])
    (fragments : List Bytes) (hcut : fragments.flatten = messages.flatMap (encodeFrame stream)) :
    (receive (takeFrame stream) [] fragments).1.filterMap Call.message = messages ∧
      (∀ call ∈ (receive (takeFrame stream) [] fragments).1,
        (call.decoded = .incomplete ∧ call.after = call.before) ∨
          ∃ message ∈ messages, call.decoded = .complete message ∧
            call.before = encodeFrame stream message ++ call.after) ∧
      (receive (takeFrame stream) [] fragments).1.countP Call.isIncomplete = fragments.length ∧
      (receive (takeFrame stream) [] fragments).2 = [] := by
  refine receive_stream (take_frame_framed hstream) hmessages ?_ hcut
  intro message hmessage
  refine List.length_pos_iff.mpr (hmessages message ?_)
  exact List.mem_of_mem_head? hmessage

/-- The maps without an entry, and those with one key of one character and an invalid value. -/
def shortMaps : Codec (Option UInt16) where
  put
    | none => some (putUInt32 0)
    | some key => some (putUInt32 1 ++ putUInt32 2 ++ putUInt16 key ++ putUInt32 0 ++ putUInt8 1)
  get := do
    let count ← getUInt32
    if count = 0 then pure none
    else
      let _ ← getUInt32
      let key ← getUInt16
      let _ ← getUInt32
      let _ ← getUInt8
      pure (some key)

theorem short_maps_round_trip : shortMaps.RoundTrips := by
  intro message bytes rest hput
  cases message with
  | none =>
      cases hput
      simp only [shortMaps, bind_apply, pure_apply, get_uint32_put, Option.bind_some, if_true]
  | some key =>
      cases hput
      have hone : (1 : UInt32) ≠ 0 := by decide
      simp only [shortMaps, List.append_assoc, bind_apply, pure_apply, get_uint32_put, if_neg hone,
        get_uint16_put, get_uint8_put, Option.bind_some]

/-- Two messages, cut inside the first length and inside the second body. -/
theorem frames_round_trip_two_messages :
    let fragments := [[0, 0], [0, 10, 0x50, 0x46, 0x50, 0x53, 0, 1, 0, 0, 0, 0, 0, 0, 0, 21, 0x50],
      [0x46, 0x50, 0x53, 0, 1, 0, 0, 0, 1, 0, 0, 0, 2, 0, 97, 0, 0, 0, 0, 1]]
    (receive (takeFrame shortMaps) [] fragments).1.filterMap Call.message = [none, some 97] ∧
      (receive (takeFrame shortMaps) [] fragments).2 = [] := by
  have hmessages : ∀ message ∈ [none, some 97], encodeFrame shortMaps message ≠ [] :=
    List.all_iff_forall_prop.mp (by decide)
  have hround := frames_round_trip shortMaps short_maps_round_trip [none, some 97] hmessages
    [[0, 0], [0, 10, 0x50, 0x46, 0x50, 0x53, 0, 1, 0, 0, 0, 0, 0, 0, 0, 21, 0x50],
      [0x46, 0x50, 0x53, 0, 1, 0, 0, 0, 1, 0, 0, 0, 2, 0, 97, 0, 0, 0, 0, 1]] (by decide)
  exact ⟨hround.1, hround.2.2.2⟩

end PrintFlow.PrinterServiceProtocol
