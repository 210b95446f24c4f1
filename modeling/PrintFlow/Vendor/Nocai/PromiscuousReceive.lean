import Mathlib.Logic.Function.Basic
import PrintFlow.Library.World
import PrintFlow.Vendor.Nocai.StaleLocks

/-!
# The promiscuous receive guard

`ensurePromiscuousReceive` keeps one packet socket for each interface open, so that the interface
stays promiscuous while the process lives. Any call of the system may fail. `Guarded` says which
sockets there are between calls; `receive_guarded` says that every call keeps it and uses no socket
that it must not use, after any calls before.
-/

namespace PrintFlow.NocaiArmStaleSessionRecovery

open Interaction

/-! ## The calls of the system -/

/-- An item of the list of `getifaddrs`: its name, and the bytes of its address if that is one of
IPv4. -/
structure InterfaceAddress where
  name : Option String
  ipv4 : Option Bytes

/-- `sock_filter`. -/
structure SockFilter where
  code : UInt16
  jt : UInt8
  jf : UInt8
  k : UInt32
  deriving DecidableEq

/-- A call of the system. -/
inductive SystemCall where
  | getifaddrs
  | ifNametoindex (name : String)
  | socket
  | attachFilter (fd : Int) (filter : List SockFilter)
  | bind (fd : Int) (interface : UInt32)
  | addMembership (fd : Int) (interface : UInt32)
  | close (fd : Int)

/-- Its answer. The texts are those of `errno`; `none` is a call that succeeds, or a list that could
not be had. -/
abbrev SystemCall.Answer : SystemCall → Type
  | .getifaddrs => Option (List InterfaceAddress)
  | .ifNametoindex _ => UInt32 × String
  | .socket => Int × String
  | .attachFilter .. => Option String
  | .bind .. => Option String
  | .addMembership .. => Option String
  | .close _ => Unit

abbrev SystemProgram (α : Type) := Program SystemCall SystemCall.Answer α

/-- Make one call. -/
abbrev SystemCall.ask (call : SystemCall) : SystemProgram call.Answer := Program.call call

abbrev SystemEvent := Event SystemCall SystemCall.Answer

/-! ## The guard -/

/-- `ipv4Text`. -/
def ipv4Text (address : Bytes) : String :=
  String.intercalate "." (address.map fun byte ↦ toString byte.toNat)

/-- `interfaceForIpv4`: the name of the first interface with the address, or no name. -/
def interfaceForIpv4 (addresses : Option (List InterfaceAddress)) (address : Bytes) : String :=
  ((addresses.getD []).findSome? fun item ↦
    if item.ipv4 = some address then item.name else none).getD ""

/-- `systemError`. -/
def systemError (operation error : String) : String := operation ++ ": " ++ error

/-- The filter of one instruction, `BPF_RET | BPF_K` with zero, which drops every packet. -/
def dropAll : List SockFilter := [⟨0x06, 0, 0, 0⟩]

structure PromiscuousReceiveResult where
  attempted : Bool := false
  completed : Bool := false
  alreadyActive : Bool := false
  interfaceName : String := ""
  detail : String := ""
  deriving DecidableEq

/-- `g_promiscuousSockets`: the sockets that are kept, each with its interface. -/
abbrev Sockets := List (UInt32 × Int)

/-- The socket is closed after an error. -/
def closeAfter (fd : Int) (sockets : Sockets) (result : PromiscuousReceiveResult) :
    SystemProgram (Sockets × PromiscuousReceiveResult) := do
  SystemCall.ask (.close fd)
  return (sockets, result)

/-- The part behind the lock, for an interface and its name. -/
def openGuard (sockets : Sockets) (interfaceIndex : UInt32) (interfaceName : String) :
    SystemProgram (Sockets × PromiscuousReceiveResult) := do
  let result : PromiscuousReceiveResult := { attempted := true, interfaceName }
  if (sockets.lookup interfaceIndex).isSome then
    return (sockets, { result with
      completed := true
      alreadyActive := true
      detail := "retained process-scoped promiscuous receive on " ++ interfaceName })
  else
    let socketFd ← SystemCall.ask .socket
    if socketFd.1 < 0 then
      return (sockets, { result with
        detail := systemError
          "could not open the promiscuous receive guard (CAP_NET_RAW is required)" socketFd.2 })
    else
      match ← SystemCall.ask (.attachFilter socketFd.1 dropAll) with
      | some error =>
        closeAfter socketFd.1 sockets { result with
          detail := systemError "could not filter the promiscuous receive guard" error }
      | none =>
        match ← SystemCall.ask (.bind socketFd.1 interfaceIndex) with
        | some error =>
          closeAfter socketFd.1 sockets { result with
            detail := systemError
              ("could not bind the promiscuous receive guard to " ++ interfaceName) error }
        | none =>
          match ← SystemCall.ask (.addMembership socketFd.1 interfaceIndex) with
          | some error =>
            closeAfter socketFd.1 sockets { result with
              detail := systemError
                ("could not enable process-scoped promiscuous receive on " ++ interfaceName)
                error }
          | none =>
            return ((interfaceIndex, socketFd.1) :: sockets, { result with
              completed := true
              detail := "enabled process-scoped promiscuous receive on " ++ interfaceName })

def ensurePromiscuousReceive (sockets : Sockets) (printerAddressList : Option Memory)
    (printerIndex : Int) : SystemProgram (Sockets × PromiscuousReceiveResult) :=
  match selectedRecord printerAddressList printerIndex with
  | .error detail => pure (sockets, { detail })
  | .ok record => do
    let pcIp := bytesAt record kPcIpOffset 4
    let addresses ← SystemCall.ask .getifaddrs
    let interfaceName := interfaceForIpv4 addresses pcIp
    if interfaceName = "" then
      return (sockets, {
        attempted := true
        detail := "no local interface owns selected PC IPv4 address " ++ ipv4Text pcIp })
    else
      let interfaceIndex ← SystemCall.ask (.ifNametoindex interfaceName)
      if interfaceIndex.1 = 0 then
        return (sockets, {
          attempted := true
          interfaceName
          detail := systemError "if_nametoindex failed" interfaceIndex.2 })
      else openGuard sockets interfaceIndex.1 interfaceName

/-! ## The sockets of the system -/

/-- A packet socket: its filter, the interface it is bound to and the one it keeps promiscuous. -/
structure PacketSocket where
  filter : Option (List SockFilter) := none
  interface : Option UInt32 := none
  promiscuous : Option UInt32 := none
  deriving DecidableEq

/-- The guard of an interface. -/
def guardOf (interface : UInt32) : PacketSocket where
  filter := some dropAll
  interface := some interface
  promiscuous := some interface

/-- The sockets that were opened here and not closed, and the last answers about interfaces. -/
structure Kernel where
  sockets : Int → Option PacketSocket := fun _ ↦ none
  addresses : Option (List InterfaceAddress) := none
  index : UInt32 := 0

/-- Put a socket in the place of another. -/
def Kernel.set (kernel : Kernel) (fd : Int) (socket : Option PacketSocket) : Kernel :=
  { kernel with sockets := Function.update kernel.sockets fd socket }

/-- What the system does. A new socket has a number that no open one has, and a call that fails
changes nothing. -/
inductive SystemStep (kernel : Kernel) : SystemEvent → Kernel → Prop where
  | getifaddrs (addresses) :
      SystemStep kernel ⟨.getifaddrs, addresses⟩ { kernel with addresses }
  | ifNametoindex (name answer) :
      SystemStep kernel ⟨.ifNametoindex name, answer⟩ { kernel with index := answer.1 }
  | opened (fd text) : 0 ≤ fd → kernel.sockets fd = none →
      SystemStep kernel ⟨.socket, (fd, text)⟩ (kernel.set fd (some {}))
  | notOpened (fd text) : fd < 0 → SystemStep kernel ⟨.socket, (fd, text)⟩ kernel
  | filtered (fd filter socket) : kernel.sockets fd = some socket →
      SystemStep kernel ⟨.attachFilter fd filter, none⟩
        (kernel.set fd (some { socket with filter := some filter }))
  | notFiltered (fd filter error) :
      SystemStep kernel ⟨.attachFilter fd filter, some error⟩ kernel
  | bound (fd interface socket) : kernel.sockets fd = some socket →
      SystemStep kernel ⟨.bind fd interface, none⟩
        (kernel.set fd (some { socket with interface := some interface }))
  | notBound (fd interface error) : SystemStep kernel ⟨.bind fd interface, some error⟩ kernel
  | joined (fd interface socket) : kernel.sockets fd = some socket →
      SystemStep kernel ⟨.addMembership fd interface, none⟩
        (kernel.set fd (some { socket with promiscuous := some interface }))
  | notJoined (fd interface error) :
      SystemStep kernel ⟨.addMembership fd interface, some error⟩ kernel
  | closed (fd) : SystemStep kernel ⟨.close fd, ()⟩ (kernel.set fd none)

/-- The calls that may be made: none on a socket that is kept or not open, and none that lets
packets in before the filter drops them. -/
def Allowed (sockets : Sockets) (kernel : Kernel) : SystemCall → Prop
  | .attachFilter fd _ => kernel.sockets fd ≠ none ∧ fd ∉ sockets.map Prod.snd
  | .bind fd _ =>
    (∃ socket, kernel.sockets fd = some socket ∧ socket.filter = some dropAll) ∧
      fd ∉ sockets.map Prod.snd
  | .addMembership fd interface =>
    kernel.sockets fd = some { filter := some dropAll, interface := some interface } ∧
      fd ∉ sockets.map Prod.snd
  | .close fd => kernel.sockets fd ≠ none ∧ fd ∉ sockets.map Prod.snd
  | _ => True

/-- Between calls exactly the sockets that are kept are open, each is the guard of its interface,
and no interface has two. -/
structure Guarded (sockets : Sockets) (kernel : Kernel) : Prop where
  kept (interface : UInt32) (fd : Int) :
    (interface, fd) ∈ sockets → kernel.sockets fd = some (guardOf interface)
  only (fd : Int) : kernel.sockets fd ≠ none → fd ∈ sockets.map Prod.snd
  once : (sockets.map Prod.fst).Nodup

section Guarded

variable {sockets : Sockets} {kernel : Kernel} {fd : Int} {socket : Option PacketSocket}

theorem Kernel.set_same : (kernel.set fd socket).sockets fd = socket :=
  Function.update_self ..

theorem Kernel.set_other {other : Int} (h : other ≠ fd) :
    (kernel.set fd socket).sockets other = kernel.sockets other :=
  Function.update_of_ne h ..

@[simp] theorem Kernel.set_set (next : Option PacketSocket) :
    (kernel.set fd socket).set fd next = kernel.set fd next := by
  rw [set, set, set, Function.update_idem]

/-- A socket that is not open is not kept. -/
theorem Guarded.not_kept (h : Guarded sockets kernel) (hclosed : kernel.sockets fd = none) :
    fd ∉ sockets.map Prod.snd := by
  intro hkept
  obtain ⟨⟨interface, other⟩, hmem, rfl⟩ := List.mem_map.mp hkept
  cases hclosed.symm.trans (h.kept interface other hmem)

/-- A socket that was opened and closed leaves nothing behind. -/
theorem Kernel.set_none (hclosed : kernel.sockets fd = none) : kernel.set fd none = kernel := by
  rw [set, ← hclosed, Function.update_eq_self]

/-- The guard of an interface that has none. -/
theorem Guarded.insert (h : Guarded sockets kernel) (hclosed : kernel.sockets fd = none)
    {interface : UInt32} (hnew : interface ∉ sockets.map Prod.fst) :
    Guarded ((interface, fd) :: sockets) (kernel.set fd (some (guardOf interface))) where
  kept other number hmem := by
    rcases List.mem_cons.mp hmem with heq | hold
    · cases heq
      exact Kernel.set_same
    · have hne : number ≠ fd := by
        intro heq
        exact h.not_kept hclosed (heq ▸ List.mem_map_of_mem hold)
      exact (Kernel.set_other hne).trans (h.kept other number hold)
  only number hopen := by
    by_cases heq : number = fd
    · exact heq ▸ List.mem_cons_self
    · rw [Kernel.set_other heq] at hopen
      exact List.mem_cons_of_mem _ (h.only number hopen)
  once := List.nodup_cons.mpr ⟨hnew, h.once⟩

theorem lookup_is_some_iff {interface : UInt32} :
    (sockets.lookup interface).isSome = true ↔ interface ∈ sockets.map Prod.fst := by
  rw [List.lookup_isSome_iff, List.mem_map]
  refine exists_congr fun entry ↦ and_congr_right fun _ ↦ ?_
  rw [beq_iff_eq]
  exact eq_comm

/-- What is kept behind the part behind the lock. -/
def KeptFor (sockets : Sockets) (kernel : Kernel) (interfaceIndex : UInt32) (interfaceName : String)
    (value : Sockets × PromiscuousReceiveResult) (final : Kernel) : Prop :=
  Guarded value.1 final ∧ sockets ⊆ value.1 ∧ final.addresses = kernel.addresses ∧
    final.index = kernel.index ∧ value.2.interfaceName = interfaceName ∧
    (value.2.completed = true → interfaceIndex ∈ value.1.map Prod.fst)

/-- After an error the socket that was opened is closed, and nothing has changed. -/
theorem close_after_safely (h : Guarded sockets kernel) (hclosed : kernel.sockets fd = none)
    {socket : PacketSocket} {interfaceIndex : UInt32} {result : PromiscuousReceiveResult}
    (hfailed : result.completed = false) :
    Safely SystemStep (Allowed sockets) (closeAfter fd sockets result)
      (KeptFor sockets kernel interfaceIndex result.interfaceName)
      (kernel.set fd (some socket)) := by
  have hallowed : Allowed sockets (kernel.set fd (some socket)) (.close fd) :=
    ⟨by rw [Kernel.set_same]; nofun, h.not_kept hclosed⟩
  refine .call_bind hallowed fun _ next hstep ↦ .pure ?_
  cases hstep
  rw [Kernel.set_set, Kernel.set_none hclosed]
  exact ⟨h, List.Subset.refl _, rfl, rfl, rfl, fun hcompleted ↦ by
    rw [hfailed] at hcompleted
    cases hcompleted⟩

/-- `openGuard` keeps the sockets in order, whatever fails. -/
theorem open_guard_safely (h : Guarded sockets kernel) (interfaceIndex : UInt32)
    (interfaceName : String) :
    Safely SystemStep (Allowed sockets) (openGuard sockets interfaceIndex interfaceName)
      (KeptFor sockets kernel interfaceIndex interfaceName) kernel := by
  unfold openGuard
  dsimp only
  refine .ite (fun hkept ↦ .pure ?_) fun hnew ↦ ?_
  · exact ⟨h, List.Subset.refl _, rfl, rfl, rfl, fun _ ↦ lookup_is_some_iff.mp hkept⟩
  have hnone : interfaceIndex ∉ sockets.map Prod.fst := fun hmem ↦
    hnew (lookup_is_some_iff.mpr hmem)
  refine .call_bind trivial fun answer next hstep ↦ ?_
  cases hstep with
  | notOpened fd text hnegative =>
      rw [if_pos hnegative]
      exact .pure ⟨h, List.Subset.refl _, rfl, rfl, rfl, nofun⟩
  | opened fd text hnonnegative hclosed =>
      have hkept := h.not_kept hclosed
      rw [if_neg (not_lt.mpr hnonnegative)]
      refine .call_bind ⟨by rw [Kernel.set_same]; nofun, hkept⟩ fun answer next hstep ↦ ?_
      cases hstep with
      | notFiltered fd filter error => exact close_after_safely h hclosed rfl
      | filtered fd filter socket hsocket =>
          obtain rfl := Option.some.inj (Kernel.set_same.symm.trans hsocket)
          rw [Kernel.set_set]
          refine .call_bind ⟨⟨_, Kernel.set_same, rfl⟩, hkept⟩ fun answer next hstep ↦ ?_
          cases hstep with
          | notBound fd interface error => exact close_after_safely h hclosed rfl
          | bound fd interface socket hsocket =>
              obtain rfl := Option.some.inj (Kernel.set_same.symm.trans hsocket)
              rw [Kernel.set_set]
              refine .call_bind ⟨Kernel.set_same, hkept⟩ fun answer next hstep ↦ ?_
              cases hstep with
              | notJoined fd interface error => exact close_after_safely h hclosed rfl
              | joined fd interface socket hsocket =>
                  obtain rfl := Option.some.inj (Kernel.set_same.symm.trans hsocket)
                  rw [Kernel.set_set]
                  exact .pure ⟨h.insert hclosed hnone, List.subset_cons_self _ _, rfl, rfl, rfl,
                    fun _ ↦ List.mem_cons_self⟩

end Guarded

/-! ## Calls one after the other -/

/-- The sockets that are kept and those of the system, after calls for any printers. -/
inductive Reached : Sockets → Kernel → Prop where
  | start : Reached [] {}
  | call (sockets kernel printerAddressList printerIndex trace value final) :
      Reached sockets kernel →
      Runs (ensurePromiscuousReceive sockets printerAddressList printerIndex) trace value →
      Along SystemStep kernel trace final →
      Reached value.1 final

/-- What a call leaves behind: the guards, those there were among them. If it has completed there is
one for the interface that has the PC address of the selected printer. -/
structure Completes (sockets : Sockets) (printerAddressList : Option Memory) (printerIndex : Int)
    (value : Sockets × PromiscuousReceiveResult) (final : Kernel) : Prop where
  guarded : Guarded value.1 final
  keeps : sockets ⊆ value.1
  completed : value.2.completed = true → ∃ record,
    selectedRecord printerAddressList printerIndex = .ok record ∧
      value.2.interfaceName = interfaceForIpv4 final.addresses (bytesAt record kPcIpOffset 4) ∧
      value.2.interfaceName ≠ "" ∧ final.index ∈ value.1.map Prod.fst

/-- One call. -/
theorem ensure_promiscuous_receive_safely {sockets : Sockets} {kernel : Kernel}
    (h : Guarded sockets kernel) (printerAddressList : Option Memory) (printerIndex : Int) :
    Safely SystemStep (Allowed sockets)
      (ensurePromiscuousReceive sockets printerAddressList printerIndex)
      (Completes sockets printerAddressList printerIndex) kernel := by
  unfold ensurePromiscuousReceive
  cases hrecord : selectedRecord printerAddressList printerIndex with
  | error detail => exact .pure ⟨h, List.Subset.refl _, nofun⟩
  | ok record =>
      dsimp only
      refine .call_bind trivial fun addresses next hstep ↦ ?_
      cases hstep
      have hnamed : Guarded sockets { kernel with addresses } := ⟨h.kept, h.only, h.once⟩
      refine .ite (fun _ ↦ .pure ⟨hnamed, List.Subset.refl _, nofun⟩) fun hname ↦ ?_
      refine .call_bind trivial fun interfaceIndex next hstep ↦ ?_
      cases hstep
      have hindexed : Guarded sockets { kernel with addresses, index := interfaceIndex.1 } :=
        ⟨h.kept, h.only, h.once⟩
      refine .ite (fun _ ↦ .pure ⟨hindexed, List.Subset.refl _, nofun⟩) fun _ ↦ ?_
      refine (open_guard_safely hindexed _ _).mono fun value final hkept ↦ ?_
      obtain ⟨hguarded, hkeeps, haddresses, hindex, hinterface, hcompleted⟩ := hkept
      refine ⟨hguarded, hkeeps, fun hdone ↦ ⟨record, hrecord, ?_, ?_, ?_⟩⟩
      · rw [hinterface, haddresses]
      · rw [hinterface]
        exact hname
      · rw [hindex]
        exact hcompleted hdone

theorem reached_guarded {sockets : Sockets} {kernel : Kernel} (h : Reached sockets kernel) :
    Guarded sockets kernel := by
  induction h with
  | start => exact ⟨fun _ _ h ↦ absurd h List.not_mem_nil, fun _ h ↦ absurd rfl h, List.nodup_nil⟩
  | call sockets kernel printerAddressList printerIndex trace value final _ hruns halong ih =>
      exact ((ensure_promiscuous_receive_safely ih printerAddressList printerIndex trace value
        hruns).2 final halong).guarded

/-- After any calls, whatever has failed in them: exactly one filtered and bound socket is open for
each interface that is kept promiscuous, and no other. The next call keeps it so, makes no call on
a socket that is kept, closed or not yet filtered, and completes only with the guard. -/
theorem receive_guarded {sockets : Sockets} {kernel : Kernel} (h : Reached sockets kernel)
    (printerAddressList : Option Memory) (printerIndex : Int) :
    Guarded sockets kernel ∧
      Safely SystemStep (Allowed sockets)
        (ensurePromiscuousReceive sockets printerAddressList printerIndex)
        (Completes sockets printerAddressList printerIndex) kernel :=
  ⟨reached_guarded h,
    ensure_promiscuous_receive_safely (reached_guarded h) printerAddressList printerIndex⟩

/-- The addresses of a computer with the PC address of `onePrinterList` on its interface 2. -/
def oneInterface : Option (List InterfaceAddress) :=
  some [⟨some "eth0", some (bytesAt onePrinterList (kAddressListHeaderSize + kPcIpOffset) 4)⟩]

/-- The guard of its interface, after a call in which nothing fails. -/
theorem receive_guarded_one_interface : ∃ kernel, Reached [(2, 7)] kernel ∧
    kernel.sockets 7 = some (guardOf 2) := by
  have hruns : Runs (ensurePromiscuousReceive [] (some onePrinterList) 0)
      [⟨.getifaddrs, oneInterface⟩, ⟨.ifNametoindex "eth0", (2, "")⟩, ⟨.socket, (7, "")⟩,
        ⟨.attachFilter 7 dropAll, none⟩, ⟨.bind 7 2, none⟩, ⟨.addMembership 7 2, none⟩]
      ([(2, 7)], ⟨true, true, false, "eth0",
        "enabled process-scoped promiscuous receive on eth0"⟩) := by
    have hname : interfaceForIpv4 oneInterface
        (bytesAt onePrinterList (kAddressListHeaderSize + kPcIpOffset) 4) = "eth0" := by
      decide +kernel
    obtain ⟨record, hrecord, hip⟩ : ∃ record,
        selectedRecord (some onePrinterList) 0 = .ok record ∧ bytesAt record kPcIpOffset 4 =
          bytesAt onePrinterList (kAddressListHeaderSize + kPcIpOffset) 4 := ⟨_, rfl, rfl⟩
    rw [ensurePromiscuousReceive, hrecord]
    dsimp only
    refine .call_bind ?_
    rw [hip, hname, if_neg (by decide)]
    refine .call_bind ?_
    rw [if_neg (by decide), openGuard]
    dsimp only
    rw [if_neg (by decide)]
    refine .call_bind ?_
    rw [if_neg (by decide)]
    exact .call_bind (.call_bind (.call_bind (.done _)))
  have hreached : Reached [(2, 7)] _ :=
    .call [] {} (some onePrinterList) 0 _ _ _ .start hruns
      (.cons (.getifaddrs _) (.cons (.ifNametoindex _ _) (.cons (.opened 7 "" (by decide) rfl)
        (.cons (.filtered 7 dropAll {} rfl) (.cons (.bound 7 2 _ rfl)
          (.cons (.joined 7 2 _ rfl) (.nil _)))))))
  exact ⟨_, hreached,
    (receive_guarded hreached (some onePrinterList) 0).1.kept 2 7 List.mem_cons_self⟩

end PrintFlow.NocaiArmStaleSessionRecovery
