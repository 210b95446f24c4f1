import Mathlib.Data.List.Pairwise
import PrintFlow.PrinterService.Codecs
import PrintFlow.PrinterService.Frames
import PrintFlow.PrinterService.Server

/-!
# Messages between a client and the printer service

The client sends a map with a command, its arguments and a payload, and reads one map back, from
whatever fragments the connection delivers. `read_reply`: it gives back the reply that was written
or says that there was none in time, and nothing else.
-/

namespace PrintFlow

open FloatFormat (Double)

/-- The further constructors and conversions of a `QVariant` in the messages of the service. -/
class QVariantMessage (V : Type) extends QVariantOf V where
  ofBool : Bool → V
  ofLongLong : Int64 → V
  ofString : String → V
  ofMap : QVariantMap V → V
  toLongLong : V → Int64

/-- These variants convert to the values they were made of. -/
class LawfulQVariantMessage (V : Type) [QVariantApi V] [QVariantMessage V] : Prop
    extends LawfulQVariant V where
  to_bool (value : Bool) : QVariantApi.toBool (QVariantMessage.ofBool value : V) = value
  to_long_long (value : Int64) :
    QVariantMessage.toLongLong (QVariantMessage.ofLongLong value : V) = value
  to_string (value : String) : QVariantApi.toString (QVariantMessage.ofString value : V) = value
  to_map (map : QVariantMap V) : QVariantApi.toMap (QVariantMessage.ofMap map : V) = map

attribute [simp] LawfulQVariantMessage.to_bool LawfulQVariantMessage.to_long_long
  LawfulQVariantMessage.to_string LawfulQVariantMessage.to_map

/-- `map.value(key, fallback).toLongLong()`. -/
def QVariantMap.longLong {V : Type} [QVariantMessage V] (map : QVariantMap V) (key : String)
    (fallback : Int64) : Int64 :=
  (map key).elim fallback QVariantMessage.toLongLong

/-- Variants whose maps are functions. -/
inductive MapVariant where
  | int (value : Int32)
  | uint (value : UInt32)
  | ulonglong (value : UInt64)
  | longlong (value : Int64)
  | bool (value : Bool)
  | double (value : Double)
  | string (value : String)
  | byteArray (value : Bytes)
  | list (values : List MapVariant)
  | map (entries : String → Option MapVariant)

instance : QVariantApi MapVariant where
  toInt | .int value => value | _ => 0
  toUInt | .uint value => value | .ulonglong value => value.toUInt32 | _ => 0
  toULongLong | .ulonglong value => value | _ => 0
  toBool | .bool value => value | _ => false
  toDouble | .double value => value | _ => .finite 0
  toString | .string value => value | _ => ""
  toByteArray | .byteArray value => value | _ => []
  toList | .list values => values | _ => []
  toMap | .map entries => entries | _ => fun _ ↦ none

instance : QVariantMessage MapVariant where
  ofInt := .int
  ofULongLong := .ulonglong
  ofDouble := .double
  ofByteArray := .byteArray
  ofList := .list
  ofBool := .bool
  ofLongLong := .longlong
  ofString := .string
  ofMap := .map
  toLongLong | .longlong value => value | _ => 0

instance : LawfulQVariantMessage MapVariant where
  to_int _ := rfl
  to_uint value := UInt32.toUInt32_toUInt64 value
  to_ulonglong _ := rfl
  to_double _ := rfl
  to_byte_array _ := rfl
  to_list _ := rfl
  to_bool _ := rfl
  to_long_long _ := rfl
  to_string _ := rfl
  to_map _ := rfl

end PrintFlow

namespace PrintFlow.PrinterServiceClient

open DataStream Framing PrinterServiceProtocol PrinterServiceServer QVariantMessage

variable {V : Type} [QVariantApi V] [QVariantMessage V]

/-- The message of `exchange`. -/
def requestMessage (command : String) (arguments : QVariantMap V) (payload : Bytes) :
    QVariantMap V :=
  .ofEntries
    ([("command", ofString command), ("arguments", ofMap arguments)] ++
      if payload = [] then [] else [("payload", QVariantOf.ofByteArray payload)])

/-- The `result` of a response as an entry. An invalid variant reads as a missing one. -/
def resultEntry : Result V → List (String × V)
  | .none => []
  | .text value => [("result", ofString value)]
  | .number value => [("result", QVariantOf.ofULongLong value)]
  | .upload id chunkBytes =>
    [("result", ofMap (.ofEntries
      [("uploadId", ofString id), ("chunkBytes", ofLongLong (Int64.ofNat chunkBytes))]))]
  | .printers values => [("result", QVariantOf.ofList values)]
  | .map value => [("result", ofMap value)]
  | .variant value => value.toList.map fun found ↦ ("result", found)

/-- A response as it is sent, with the state of the service. -/
def responseMessage (state : QVariantMap V) (response : Response V) : QVariantMap V :=
  .ofEntries
    (("ok", ofBool response.ok) :: resultEntry response.result ++
      [("error", ofString response.error), ("state", ofMap state)])

/-- `responseOk`. -/
def responseOk (response : QVariantMap V) : Bool := response.bool "ok" false

/-! ## What is read back -/

section Lawful

variable [LawfulQVariantMessage V] {command : String} {arguments : QVariantMap V} {payload : Bytes}

@[simp] theorem request_command :
    (requestMessage command arguments payload).string "command" "" = command := by
  simp [requestMessage, QVariantMap.ofEntries, QVariantMap.string]

@[simp] theorem request_arguments :
    (requestMessage command arguments payload).map "arguments" = arguments := by
  simp [requestMessage, QVariantMap.ofEntries, QVariantMap.map, List.lookup_cons]

@[simp] theorem request_payload :
    (requestMessage command arguments payload).byteArray "payload" = payload := by
  by_cases h : payload = []
  · simp [requestMessage, QVariantMap.ofEntries, QVariantMap.byteArray, List.lookup_cons, h]
  · simp [requestMessage, QVariantMap.ofEntries, QVariantMap.byteArray, List.lookup_cons, h]

@[simp] theorem response_ok (state : QVariantMap V) (response : Response V) :
    responseOk (responseMessage state response) = response.ok := by
  simp [responseOk, responseMessage, QVariantMap.ofEntries, QVariantMap.bool]

/-- The id and the chunk size of a new upload are read back. -/
theorem response_upload (state : QVariantMap V) {response : Response V} {id : String}
    {chunkBytes : Nat} (h : response.result = .upload id chunkBytes) :
    ((responseMessage state response).map "result").string "uploadId" "" = id ∧
      ((responseMessage state response).map "result").longLong "chunkBytes" (1024 * 1024) =
        Int64.ofNat chunkBytes := by
  simp [responseMessage, resultEntry, h, QVariantMap.ofEntries, QVariantMap.map,
    QVariantMap.string, QVariantMap.longLong, List.lookup_cons]

end Lawful

/-! ## The reply -/

/-- One turn of the loop of `exchange` that reads the reply: whether the deadline has expired, what
`readAll` returns, and, when nothing more comes and the socket is unconnected, what the last
`readAll` returns. -/
structure ReadTurn where
  expired : Bool := false
  bytes : Bytes
  last : Option Bytes := none

/-- The error of a request without a reply. -/
def noReply : String := "Printer service did not respond before the timeout."

section Reading

variable {M : Type} {stream : Codec M}

/-- The loop of `exchange` that reads the reply. -/
def readReply (stream : Codec M) : Bytes → List ReadTurn → Except String M
  | _, [] => .error noReply
  | buffer, turn :: turns =>
    if turn.expired then .error noReply
    else
      match takeFrame stream (buffer ++ turn.bytes) with
      | (_, .complete decoded) => .ok decoded
      | (_, .invalid message) => .error message
      | (rest, .incomplete) =>
        match turn.last with
        | none => readReply stream rest turns
        | some bytes =>
          match takeFrame stream (rest ++ bytes) with
          | (_, .complete decoded) => .ok decoded
          | _ => .error noReply

/-- The bytes that the loop reads. -/
def readBytes : List ReadTurn → Bytes
  | [] => []
  | turn :: turns =>
    if turn.expired then []
    else
      turn.bytes ++
        match turn.last with
        | none => readBytes turns
        | some bytes => bytes

/-- Nothing that is read is no reply. -/
theorem read_nothing (hstream : stream.RoundTrips) {turns : List ReadTurn}
    (h : readBytes turns = []) : readReply stream [] turns = .error noReply := by
  have hempty := (take_frame_framed hstream).empty
  induction turns with
  | nil => rfl
  | cons turn turns ih =>
      rw [readBytes] at h
      rw [readReply]
      split_ifs at h ⊢ with hexpired
      · rfl
      · obtain ⟨hbytes, hrest⟩ := List.append_eq_nil_iff.mp h
        rw [hbytes, List.append_nil, hempty]
        cases hlast : turn.last with
        | none =>
            rw [hlast] at hrest
            exact ih hrest
        | some bytes =>
            rw [hlast] at hrest
            dsimp only at hrest ⊢
            rw [hrest, List.append_nil, hempty]

/-- Of a reply that arrives in whatever parts the loop gives back the reply once it has read all of
it, and else says that there was none in time. -/
theorem read_reply (hstream : stream.RoundTrips) {reply : M}
    (hframe : encodeFrame stream reply ≠ []) (buffer : Bytes) {turns : List ReadTurn}
    (hfront : buffer ++ readBytes turns <+: encodeFrame stream reply)
    (hshort : buffer ≠ encodeFrame stream reply) :
    readReply stream buffer turns =
      if buffer ++ readBytes turns = encodeFrame stream reply then .ok reply
      else .error noReply := by
  have hframed := take_frame_framed hstream
  -- A proper part of the reply is left in the buffer.
  have hpart : ∀ {part : Bytes}, part <+: encodeFrame stream reply →
      part ≠ encodeFrame stream reply → takeFrame stream part = (part, .incomplete) := by
    rintro part ⟨future, hfuture⟩ hne
    refine hframed.incomplete hframe part future hfuture ?_
    rintro rfl
    exact hne (by rw [← hfuture, List.append_nil])
  have hwhole : takeFrame stream (encodeFrame stream reply) = ([], .complete reply) := by
    have htake := hframed.complete hframe []
    rwa [List.append_nil] at htake
  induction turns generalizing buffer with
  | nil => simp [readBytes, readReply, hshort]
  | cons turn turns ih =>
      rw [readReply]
      rw [readBytes] at hfront ⊢
      by_cases hexpired : turn.expired = true
      · simp [hexpired, hshort]
      rw [if_neg hexpired] at hfront ⊢
      rw [if_neg hexpired, ← List.append_assoc]
      rw [← List.append_assoc] at hfront
      by_cases hall : buffer ++ turn.bytes = encodeFrame stream reply
      · -- Nothing comes behind the reply.
        rw [hall] at hfront ⊢
        rw [hwhole, if_pos (hfront.eq_of_length_le (by simp))]
      · rw [hpart ((List.prefix_append _ _).trans hfront) hall]
        cases hlast : turn.last with
        | none =>
            rw [hlast] at hfront
            exact ih (buffer ++ turn.bytes) hfront hall
        | some bytes =>
            rw [hlast] at hfront
            dsimp only at hfront ⊢
            by_cases hlate : buffer ++ turn.bytes ++ bytes = encodeFrame stream reply
            · rw [hlate, hwhole, if_pos rfl]
            · rw [hpart hfront hlate, if_neg hlate]

end Reading

end PrintFlow.PrinterServiceClient

/-! ## The bytes of some messages -/

namespace PrintFlow.Variant

open DataStream

/-- A `QString`: the number of its bytes and its characters of the basic plane; an empty one is
null. -/
def putText (text : String) : Bytes :=
  if text = "" then putUInt32 0xffffffff
  else
    putUInt32 (UInt32.ofNat (2 * text.length)) ++
      text.toList.flatMap fun c ↦ putUInt16 (UInt16.ofNat c.toNat)

mutual

/-- `QVariant::save`: the number of the type, that the value is not null, and the value. There are
no doubles in the messages here. -/
def put : Variant → Option Bytes
  | .bool value => some (putUInt32 1 ++ putUInt8 0 ++ putUInt8 (if value then 1 else 0))
  | .int value => some (putUInt32 2 ++ putUInt8 0 ++ putInt32 value)
  | .uint value => some (putUInt32 3 ++ putUInt8 0 ++ putUInt32 value)
  | .ulonglong value => some (putUInt32 5 ++ putUInt8 0 ++ putUInt64 value)
  | .double _ => none
  | .map entries =>
    (putEntries entries).map fun bytes ↦
      putUInt32 8 ++ putUInt8 0 ++ putUInt32 (UInt32.ofNat entries.length) ++ bytes
  | .list values =>
    (putValues values).map fun bytes ↦
      putUInt32 9 ++ putUInt8 0 ++ putUInt32 (UInt32.ofNat values.length) ++ bytes
  | .string value => some (putUInt32 10 ++ putUInt8 0 ++ putText value)
  | .byteArray value => some (putUInt32 12 ++ putUInt8 0 ++ putByteArray (some value))

/-- The entries of a map, in the order of their keys. -/
def putEntries : List (String × Variant) → Option Bytes
  | [] => some []
  | (key, value) :: rest => do
    let bytes ← put value
    let others ← putEntries rest
    return putText key ++ bytes ++ others

/-- The values of a list. -/
def putValues : List Variant → Option Bytes
  | [] => some []
  | value :: rest => do
    let bytes ← put value
    let others ← putValues rest
    return bytes ++ others

end

mutual

/-- The variant with maps as functions. -/
def toMapVariant : Variant → MapVariant
  | .int value => .int value
  | .uint value => .uint value
  | .ulonglong value => .ulonglong value
  | .bool value => .bool value
  | .double value => .double value
  | .string value => .string value
  | .byteArray value => .byteArray value
  | .list values => .list (toMapValues values)
  | .map entries => .map (QVariantMap.ofEntries (toMapEntries entries))

def toMapEntries : List (String × Variant) → List (String × MapVariant)
  | [] => []
  | (key, value) :: rest => (key, toMapVariant value) :: toMapEntries rest

def toMapValues : List Variant → List MapVariant
  | [] => []
  | value :: rest => toMapVariant value :: toMapValues rest

end

end PrintFlow.Variant

namespace PrintFlow

/-- Entries in another order give the same map. -/
theorem QVariantMap.of_entries_perm {V : Type} {entries others : List (String × V)}
    (h : entries.Perm others) (hkeys : (entries.map Prod.fst).Nodup) :
    QVariantMap.ofEntries entries = .ofEntries others := by
  funext key
  show entries.lookup key = others.lookup key
  induction h with
  | nil => rfl
  | cons entry h ih =>
      rw [List.lookup_cons, List.lookup_cons, ih (List.nodup_cons.mp hkeys).2]
  | swap first second rest =>
      obtain ⟨firstKey, firstValue⟩ := first
      obtain ⟨secondKey, secondValue⟩ := second
      rw [List.lookup_cons, List.lookup_cons, List.lookup_cons, List.lookup_cons]
      -- One key is not both.
      cases hfirst : key == firstKey <;> cases hsecond : key == secondKey
      case true.true =>
        have hsame : secondKey = firstKey := (eq_of_beq hsecond).symm.trans (eq_of_beq hfirst)
        simp [hsame] at hkeys
      all_goals rfl
  | trans hfirst hsecond ihfirst ihsecond =>
      exact (ihfirst hkeys).trans (ihsecond ((hfirst.map _).nodup_iff.mp hkeys))
end PrintFlow

namespace PrintFlow.PrinterServiceProtocol

open DataStream

/-- The message with these entries. -/
def messageOf (entries : List (String × Variant)) : QVariantMap MapVariant :=
  .ofEntries (Variant.toMapEntries entries)

/-- Its bytes in a `QDataStream`. -/
def putMessage (entries : List (String × Variant)) : Option Bytes :=
  (Variant.putEntries entries).map (putUInt32 (UInt32.ofNat entries.length) ++ ·)

open Classical in
/-- The stream of some messages. -/
noncomputable def messageStream (messages : List (List (String × Variant))) :
    Codec (QVariantMap MapVariant) where
  put message := (messages.find? fun entries ↦ decide (messageOf entries = message)).bind putMessage
  get bytes :=
    (messages.find? fun entries ↦ (putMessage entries).any (·.isPrefixOf bytes)).map fun entries ↦
      (messageOf entries, bytes.drop ((putMessage entries).getD []).length)

/-- The frame of a message with these entries. -/
def frameOf (entries : List (String × Variant)) : Bytes :=
  let body := putUInt32 magic ++ putUInt16 version ++ (putMessage entries).getD []
  putUInt32 (UInt32.ofNat body.length) ++ body

/-- The bytes of neither message begin those of the other. -/
def Apart (first second : List (String × Variant)) : Prop :=
  ∀ bytes ∈ putMessage first, ∀ others ∈ putMessage second, ¬ bytes <+: others ∧ ¬ others <+: bytes

instance (first second : List (String × Variant)) : Decidable (Apart first second) :=
  inferInstanceAs (Decidable (∀ bytes ∈ putMessage first, ∀ others ∈ putMessage second, _))

instance : Std.Symm Apart where
  symm _ _ h bytes hbytes others hothers := (h others hothers bytes hbytes).symm

theorem message_stream_round_trip {messages : List (List (String × Variant))}
    (h : messages.Pairwise Apart) : (messageStream messages).RoundTrips := by
  intro message bytes rest hput
  obtain ⟨entries, hfind, hbytes⟩ := Option.bind_eq_some_iff.mp hput
  have hmem := List.mem_of_find?_eq_some hfind
  have hmessage : messageOf entries = message := by simpa using List.find?_some hfind
  -- The bytes tell this message from all others.
  have hfound : messages.find? (fun other ↦
      (putMessage other).any (·.isPrefixOf (bytes ++ rest))) = some entries := by
    cases hother : messages.find? (fun other ↦
        (putMessage other).any (·.isPrefixOf (bytes ++ rest))) with
    | none =>
        have hnone := List.find?_eq_none.mp hother entries hmem
        simp [hbytes] at hnone
    | some other =>
        have hfits := List.find?_some hother
        simp only [Option.any_eq_true, List.isPrefixOf_iff_prefix] at hfits
        obtain ⟨others, hothers, hprefix⟩ := hfits
        by_contra hne
        have hboth := h.forall (List.mem_of_find?_eq_some hother) hmem
          (fun heq ↦ hne (congrArg some heq)) others hothers bytes hbytes
        rcases List.prefix_or_prefix_of_prefix hprefix (List.prefix_append bytes rest) with
          hfirst | hsecond
        · exact hboth.1 hfirst
        · exact hboth.2 hsecond
  show (messages.find? _).map _ = _
  rw [hfound, Option.map_some, hbytes, Option.getD_some, List.drop_left, hmessage]

/-- A message of the stream is written as its bytes, if no other is equal to it. -/
theorem message_stream_put {messages : List (List (String × Variant))}
    {entries : List (String × Variant)} (hmem : entries ∈ messages)
    (hother : ∀ other ∈ messages, messageOf other = messageOf entries → other = entries) :
    (messageStream messages).put (messageOf entries) = putMessage entries := by
  classical
  show (messages.find? _).bind putMessage = _
  cases hfind : messages.find? fun other ↦ decide (messageOf other = messageOf entries) with
  | none => exact absurd (List.find?_eq_none.mp hfind entries hmem) (by simp)
  | some other =>
      have hsame : messageOf other = messageOf entries := by simpa using List.find?_some hfind
      rw [hother other (List.mem_of_find?_eq_some hfind) hsame]
      rfl

/-- So is its frame. -/
theorem encode_frame_message {messages : List (List (String × Variant))}
    {entries : List (String × Variant)} (hmem : entries ∈ messages)
    (hother : ∀ other ∈ messages, messageOf other = messageOf entries → other = entries)
    (hlength : (putMessage entries).any (·.length + 6 ≤ maximumFrameSize.toNat) = true) :
    encodeFrame (messageStream messages) (messageOf entries) = frameOf entries := by
  obtain ⟨bytes, hbytes, hfits⟩ := (Option.any_eq_true _ _).mp hlength
  have hlength := of_decide_eq_true hfits
  have hmaximum : maximumFrameSize.toNat = 536870912 := rfl
  rw [encodeFrame, message_stream_put hmem hother, frameOf, hbytes]
  dsimp only [Option.getD_some]
  rw [if_neg]
  rw [List.length_append, List.length_append, put_uint32_length, put_uint16_length]
  omega

end PrintFlow.PrinterServiceProtocol
