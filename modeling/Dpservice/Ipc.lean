import Mathlib.Data.List.Basic
import Mathlib.Data.List.Forall2
import Mathlib.Logic.Function.Basic
import Mathlib.Tactic.Common
import Dpservice.Lib.Run

/-!
# Replies of the worker to the gRPC thread

The gRPC thread sends one request at a time to the worker and polls a ring for the answer. The worker writes the answer
into the buffer of the request; a list that does not fit goes on in further buffers, each marked as chained to the next.
The error code is written into the first buffer only, once the handler has returned.

- `Filling`: what the buffers hold while the handler adds messages, kept by `dpGrpcAddReply` (`Filling.add`).
- `multiHandleReply_chain`: what the gRPC thread makes of a chain of buffers.
- `ipc_run`: whatever the order in which the two threads take their turns, every call gets its own answer.
- `reply_faithful_iff`: the answer is the one that the worker gave, unless that was an error after a chained buffer.
-/

namespace Dpservice

/-! ## Buffers and rings -/

inductive RequestType where
  | reqInitialize | checkInitialized | getVersion
  | createInterface | deleteInterface | getInterface | listInterfaces
  | createPrefix | deletePrefix | listPrefixes
  | createRoute | deleteRoute | listRoutes
  | createVip | deleteVip | getVip
  | createNat | deleteNat | getNat | createNeighborNat | deleteNeighborNat | listLocalNats | listNeighborNats
  | createLoadBalancer | deleteLoadBalancer | getLoadBalancer
  | createLoadBalancerTarget | deleteLoadBalancerTarget | listLoadBalancerTargets
  | createLoadBalancerPrefix | deleteLoadBalancerPrefix | listLoadBalancerPrefixes
  | createFirewallRule | deleteFirewallRule | getFirewallRule | listFirewallRules
  | checkVniInUse | resetVni
  | captureStart | captureStop | captureStatus
  deriving DecidableEq, Repr

/-- The calls that are a `MultiReplyCall`. -/
def RequestType.isMulti : RequestType → Bool
  | .listInterfaces | .listPrefixes | .listRoutes | .listLocalNats | .listNeighborNats | .listLoadBalancerTargets
  | .listLoadBalancerPrefixes | .listFirewallRules => true
  | _ => false

/-- `struct dpgrpc_reply` in a buffer, as an array of messages. -/
structure Reply (M : Type*) where
  type : RequestType
  isChained : Bool
  msgCount : UInt16
  errCode : UInt32
  messages : ℕ → M

abbrev grpcOk : UInt32 := 0

abbrev replyArrSize : ℕ := 48

/-- The usable entries of a ring of `DP_GRPC_Q_SIZE`. -/
abbrev ringCapacity : ℕ := 63

/-- The bytes of a buffer that messages can use. -/
abbrev repMaxSize : ℕ := 2032

/-- `rte_ring_sp_enqueue_burst`: as many as fit. -/
def enqueueBurst {α : Type*} (ring xs : List α) : List α := ring ++ xs.take (ringCapacity - ring.length)

variable {M : Type*}

/-- The first `n` messages of a buffer. -/
def Reply.slots (b : Reply M) (n : ℕ) : List M := (List.range n).map b.messages

/-- The messages that `FOREACH_MESSAGE` visits. -/
def Reply.parse (b : Reply M) : List M := b.slots b.msgCount.toNat

/-! ## The worker -/

/-- `struct dp_grpc_responder`: the array of replies is split into the current one and those before it. -/
structure Responder (M : Type*) where
  requestType : RequestType
  replies : List (Reply M)
  rep : Reply M
  repCapacity : ℕ
  repMsgcount : UInt16

def Responder.repcount (r : Responder M) : ℕ := r.replies.length + 1

def dpGrpcInitResponder (type : RequestType) (m : Reply M) : Responder M where
  requestType := type
  replies := []
  rep := { m with type := type, isChained := false }
  repCapacity := 1
  repMsgcount := 0

def dpGrpcSetMultireply (r : Responder M) (msgSize : ℕ) : Responder M := { r with repCapacity := repMaxSize / msgSize }

/-- `dp_grpc_alloc_reply`, where `m` is the buffer that the allocation returns, if any. -/
def dpGrpcAllocReply (r : Responder M) (m : Option (Reply M)) : Option (Responder M) :=
  if r.repCapacity > 0xFFFF then none
  else if r.repcount ≥ replyArrSize then none
  else
    m.map fun m => { r with
      replies := r.replies ++ [{ r.rep with isChained := true, msgCount := .ofNat r.repCapacity }]
      rep := { m with type := r.requestType, isChained := false, errCode := 0 }
      repMsgcount := 0 }

/-- A handler writes a message to the next slot. -/
def Responder.push (r : Responder M) (msg : M) : Responder M :=
  { r with
    rep := { r.rep with messages := Function.update r.rep.messages r.repMsgcount.toNat msg }
    repMsgcount := r.repMsgcount + 1 }

/-- `dp_grpc_add_reply`, and the message that the handler then writes; `none` is `NULL`. -/
def dpGrpcAddReply (r : Responder M) (m : Option (Reply M)) (msg : M) : Option (Responder M) :=
  if r.repMsgcount.toNat ≥ r.repCapacity then (dpGrpcAllocReply r m).map (·.push msg) else some (r.push msg)

/-- What a handler does: the size of its messages if it calls `dp_grpc_set_multireply`, the messages it tries to add,
each with the buffer that an allocation would return at that point, and the code it returns. -/
structure Handling (M : Type*) where
  msgSize : Option { n : ℕ // 0 < n ∧ n ≤ repMaxSize } := none
  adds : List (M × Option (Reply M)) := []
  ret : UInt32

/-- The messages that fit into one buffer. -/
def Handling.capacity (h : Handling M) : ℕ := h.msgSize.elim 1 fun n => repMaxSize / n.1

/-- Add messages one after the other; the second component lists those for which there was room. -/
def Responder.addAll (r : Responder M) : List (M × Option (Reply M)) → Responder M × List M
  | [] => (r, [])
  | (msg, m) :: as =>
    match dpGrpcAddReply r m msg with
    | none => r.addAll as
    | some r' => ((r'.addAll as).1, msg :: (r'.addAll as).2)

def handle (type : RequestType) (m : Reply M) (h : Handling M) : Responder M × List M :=
  let r := dpGrpcInitResponder type m
  (h.msgSize.elim r fun n => dpGrpcSetMultireply r n.1).addAll h.adds

/-- Write the error code into the first reply. -/
def setErrCode (ret : UInt32) : List (Reply M) → List (Reply M)
  | [] => []
  | b :: bs => { b with errCode := ret } :: bs

/-- The replies that `dp_grpc_send_response` sends. -/
def Responder.response (r : Responder M) (ret : UInt32) : List (Reply M) :=
  setErrCode ret (r.replies ++ [{ r.rep with msgCount := r.repMsgcount }])

def dpGrpcSendResponse (r : Responder M) (ret : UInt32) (ring : List (Reply M)) : List (Reply M) :=
  enqueueBurst ring (r.response ret)

/-! ## The gRPC thread -/

/-- The reply of a call as far as it is known. -/
structure CallReply (M : Type*) where
  status : Option UInt32 := none
  messages : List M := []

inductive HandleRet where
  | ok | notReady | error
  deriving DecidableEq, Repr

/-- `SetStatus` and, if there is no error, `ParseReply`. -/
def CallReply.read (c : CallReply M) (b : Reply M) : CallReply M where
  status := some b.errCode
  messages := if b.errCode = grpcOk then c.messages ++ b.parse else c.messages

def singleHandleReply (type : RequestType) (c : CallReply M) : List (Reply M) → HandleRet × CallReply M × List (Reply M)
  | [] => (.notReady, c, [])
  | b :: ring =>
    if b.type ≠ type then (.error, c, ring)
    else if b.isChained || b.msgCount != 0 then (.error, c, ring)
    else (.ok, c.read b, ring)

def multiHandleReply (type : RequestType) (c : CallReply M) : List (Reply M) → HandleRet × CallReply M × List (Reply M)
  | [] => (.notReady, c, [])
  | b :: ring =>
    if b.type ≠ type then (.error, c, ring)
    else if b.isChained then multiHandleReply type (c.read b) ring
    else (.ok, c.read b, ring)

def handleReply (type : RequestType) (c : CallReply M) (ring : List (Reply M)) :
    HandleRet × CallReply M × List (Reply M) :=
  if type.isMulti then multiHandleReply type c ring else singleHandleReply type c ring

/-! ## Both threads -/

structure Served (M : Type*) where
  type : RequestType
  buf : Reply M
  handling : Handling M

/-- How a call ended; `failed` is an internal error of the gRPC thread. -/
structure Finished (M : Type*) where
  failed : Bool
  reply : CallReply M

/-- The two rings, the call that waits for its reply, and what happened so far (read by no function). -/
structure Ipc (M : Type*) where
  tx : List RequestType := []
  rx : List (Reply M) := []
  call : Option RequestType := none
  reply : CallReply M := {}
  served : List (Served M) := []
  finished : List (Finished M) := []

/-- What the threads do. -/
inductive IpcEvent (M : Type*) where
  /-- A request is sent. -/
  | call (type : RequestType)
  /-- The worker handles a request, which came in the buffer `buf`. -/
  | work (buf : Reply M) (h : Handling M)
  /-- The gRPC thread looks for a reply. -/
  | poll

/-- One step of either thread. Only handlers of list requests add messages. -/
def ipcStep (s : Ipc M) : IpcEvent M → Option (Ipc M)
  | .call type => if s.call.isNone then some { s with tx := s.tx ++ [type], call := some type, reply := {} } else none
  | .work buf h =>
    match s.tx with
    | [] => none
    | type :: tx =>
      if type.isMulti || h.adds.isEmpty then
        some { s with
          tx := tx
          rx := dpGrpcSendResponse (handle type buf h).1 h.ret s.rx
          served := s.served ++ [⟨type, buf, h⟩] }
      else none
  | .poll =>
    match s.call with
    | none => none
    | some type =>
      let r := handleReply type s.reply s.rx
      some <| match r.1 with
      | .notReady => { s with rx := r.2.2, reply := r.2.1 }
      | .ok => { s with rx := r.2.2, reply := r.2.1, call := none, finished := s.finished ++ [⟨false, r.2.1⟩] }
      | .error => { s with rx := r.2.2, reply := r.2.1, call := none, finished := s.finished ++ [⟨true, r.2.1⟩] }

/-! ## Filling the buffers -/

section Filling

variable {t : RequestType} {cap : ℕ} {added : List M} {r r' : Responder M} {m : Option (Reply M)} {msg : M}

def Responder.errCodes (r : Responder M) : List UInt32 := r.replies.map Reply.errCode ++ [r.rep.errCode]

/-- The buffers before the current one are full and chained, the messages are in them in order, and the error code of
every buffer but the first is zero. -/
structure Filling (t : RequestType) (cap : ℕ) (added : List M) (r : Responder M) : Prop where
  type : r.requestType = t
  capacity : r.repCapacity = cap
  room : r.repMsgcount.toNat ≤ cap
  repcount : r.repcount ≤ replyArrSize
  full : ∀ b ∈ r.replies, b.type = t ∧ b.isChained = true
  current : r.rep.type = t ∧ r.rep.isChained = false
  noErr : ∀ x ∈ r.errCodes.tail, x = grpcOk
  messages : r.replies.flatMap Reply.parse ++ r.rep.slots r.repMsgcount.toNat = added

theorem Filling.init (t : RequestType) (buf : Reply M) (h : Handling M) :
    Filling t h.capacity [] (h.msgSize.elim (dpGrpcInitResponder t buf) fun n =>
      dpGrpcSetMultireply (dpGrpcInitResponder t buf) n.1) := by
  have hone : 1 ≤ replyArrSize := by decide
  unfold Handling.capacity
  cases h.msgSize with
  | none => exact ⟨rfl, rfl, Nat.zero_le _, hone, by simp [dpGrpcInitResponder], ⟨rfl, rfl⟩, by
      simp [Responder.errCodes, dpGrpcInitResponder], rfl⟩
  | some n => exact ⟨rfl, rfl, Nat.zero_le _, hone, by simp [dpGrpcInitResponder, dpGrpcSetMultireply], ⟨rfl, rfl⟩, by
      simp [Responder.errCodes, dpGrpcInitResponder, dpGrpcSetMultireply], rfl⟩

theorem Handling.capacity_bounds (h : Handling M) : 0 < h.capacity ∧ h.capacity ≤ 0xFFFF := by
  unfold Handling.capacity
  cases h.msgSize with
  | none => decide
  | some n =>
    obtain ⟨n, hpos, hfits⟩ := n
    exact ⟨Nat.div_pos hfits hpos, Nat.le_trans (Nat.div_le_self repMaxSize n) (by decide)⟩

theorem map_range_update (f : ℕ → M) (n : ℕ) (msg : M) :
    (List.range (n + 1)).map (Function.update f n msg) = (List.range n).map f ++ [msg] := by
  rw [List.range_succ, List.map_append, List.map_singleton, Function.update_self]
  refine congrArg (· ++ [msg]) (List.map_congr_left fun i hi => ?_)
  rw [List.mem_range] at hi
  exact Function.update_of_ne (by omega) ..

theorem Filling.push (h : Filling t cap added r) (hcap : cap ≤ 0xFFFF) (hlt : r.repMsgcount.toNat < cap) (msg : M) :
    Filling t cap (added ++ [msg]) (r.push msg) := by
  have hcount : (r.push msg).repMsgcount.toNat = r.repMsgcount.toNat + 1 := by
    rw [Responder.push, UInt16.toNat_add, UInt16.toNat_one]
    omega
  refine ⟨h.type, h.capacity, by omega, h.repcount, h.full, h.current, h.noErr, ?_⟩
  rw [hcount, ← h.messages, List.append_assoc]
  exact congrArg (r.replies.flatMap Reply.parse ++ ·) (map_range_update r.rep.messages r.repMsgcount.toNat msg)

/-- A full buffer is put to the others. -/
theorem Filling.alloc (h : Filling t cap added r) (hcap : cap ≤ 0xFFFF) (hfull : r.repMsgcount.toNat = cap)
    (hr : dpGrpcAllocReply r m = some r') : Filling t cap added r' ∧ r'.repMsgcount = 0 ∧ r'.replies ≠ [] := by
  unfold dpGrpcAllocReply at hr
  split at hr
  · cases hr
  · split at hr
    · cases hr
    next hcount =>
      obtain ⟨buf, -, rfl⟩ := Option.map_eq_some_iff.mp hr
      refine ⟨⟨h.type, h.capacity, Nat.zero_le _, ?_, ?_, ⟨h.type, rfl⟩, ?_, ?_⟩, rfl, by simp⟩
      · simp only [Responder.repcount, List.length_append, List.length_singleton] at hcount ⊢
        omega
      · intro b hb
        rcases List.mem_append.mp hb with hb | hb
        · exact h.full b hb
        · rw [List.mem_singleton.mp hb]
          exact ⟨h.current.1, rfl⟩
      · intro x hx
        have hcodes : x ∈ (r.errCodes ++ [grpcOk]).tail := by simpa [Responder.errCodes] using hx
        rw [List.tail_append_of_ne_nil (by simp [Responder.errCodes])] at hcodes
        rcases List.mem_append.mp hcodes with hx | hx
        · exact h.noErr x hx
        · exact List.mem_singleton.mp hx
      · have hslots : (UInt16.ofNat r.repCapacity).toNat = r.repMsgcount.toNat := by
          rw [h.capacity, hfull, UInt16.toNat_ofNat']
          omega
        rw [List.flatMap_append, List.flatMap_singleton, Reply.parse, hslots, ← h.messages]
        exact List.append_nil _

theorem Filling.add (h : Filling t cap added r) (hcap : 0 < cap ∧ cap ≤ 0xFFFF)
    (hr : dpGrpcAddReply r m msg = some r') : Filling t cap (added ++ [msg]) r' := by
  unfold dpGrpcAddReply at hr
  rw [h.capacity] at hr
  split at hr
  next hge =>
    obtain ⟨r₁, hr₁, rfl⟩ := Option.map_eq_some_iff.mp hr
    obtain ⟨h₁, hzero, -⟩ := h.alloc hcap.2 (Nat.le_antisymm h.room hge) hr₁
    refine h₁.push hcap.2 ?_ msg
    rw [hzero]
    exact hcap.1
  next hlt =>
    cases hr
    exact h.push hcap.2 (by omega) msg

/-- **What the buffers hold** after messages were added one after the other, some of them without success. -/
theorem Filling.addAll (hcap : 0 < cap ∧ cap ≤ 0xFFFF) (as : List (M × Option (Reply M))) :
    ∀ {r : Responder M} {added : List M}, Filling t cap added r →
      Filling t cap (added ++ (r.addAll as).2) (r.addAll as).1 := by
  induction as with
  | nil =>
    intro r added h
    rwa [Responder.addAll, List.append_nil]
  | cons a as ih =>
    intro r added h
    unfold Responder.addAll
    split
    · exact ih h
    next r' hr =>
      have h' := ih (h.add hcap hr)
      rwa [List.append_assoc] at h'

theorem handle_filling (t : RequestType) (buf : Reply M) (h : Handling M) :
    Filling t h.capacity (handle t buf h).2 (handle t buf h).1 := by
  have hf := Filling.addAll h.capacity_bounds h.adds (Filling.init t buf h)
  rwa [List.nil_append] at hf

/-! ### One buffer or more -/

theorem addAll_replies_ne_nil (as : List (M × Option (Reply M))) :
    ∀ {r : Responder M}, r.replies ≠ [] → (r.addAll as).1.replies ≠ [] := by
  induction as with
  | nil => exact id
  | cons a as ih =>
    intro r h
    unfold Responder.addAll
    split
    · exact ih h
    next r' hr =>
      refine ih (r := r') ?_
      unfold dpGrpcAddReply dpGrpcAllocReply at hr
      split at hr
      · obtain ⟨r₁, hr₁, rfl⟩ := Option.map_eq_some_iff.mp hr
        split at hr₁
        · cases hr₁
        · split at hr₁
          · cases hr₁
          · obtain ⟨buf, -, rfl⟩ := Option.map_eq_some_iff.mp hr₁
            simp [Responder.push]
      · cases hr
        exact h

/-- Messages stay in the first buffer exactly if no allocation succeeds once it is full. -/
theorem addAll_replies_nil (hcap : 0 < cap ∧ cap ≤ 0xFFFF) (as : List (M × Option (Reply M))) :
    ∀ {r : Responder M} {added : List M}, Filling t cap added r → r.replies = [] →
      ((r.addAll as).1.replies = [] ↔ ∀ a ∈ as.drop (cap - r.repMsgcount.toNat), a.2 = none) := by
  induction as with
  | nil =>
    intro r added h hr
    simpa [Responder.addAll] using hr
  | cons a as ih =>
    intro r added h hr
    obtain ⟨msg, m⟩ := a
    by_cases hlt : r.repMsgcount.toNat < cap
    · have hadd : dpGrpcAddReply r m msg = some (r.push msg) := by
        rw [dpGrpcAddReply, h.capacity, if_neg (by omega)]
      have hcount : (r.push msg).repMsgcount.toNat = r.repMsgcount.toNat + 1 := by
        have := h.push hcap.2 hlt msg
        rw [Responder.push, UInt16.toNat_add, UInt16.toNat_one]
        omega
      obtain ⟨k, hk⟩ : ∃ k, cap - r.repMsgcount.toNat = k + 1 := ⟨cap - r.repMsgcount.toNat - 1, by omega⟩
      rw [Responder.addAll, hadd, hk, List.drop_succ_cons]
      have hih := ih (h.push hcap.2 hlt msg) hr
      rwa [hcount, show cap - (r.repMsgcount.toNat + 1) = k by omega] at hih
    · have hfull : cap - r.repMsgcount.toNat = 0 := by omega
      have hcap' : ¬ r.repCapacity > 0xFFFF := by rw [h.capacity]; omega
      have hone : ¬ r.repcount ≥ replyArrSize := by
        rw [Responder.repcount, hr, List.length_nil]
        exact Nat.not_le.mpr (by decide : 0 + 1 < replyArrSize)
      have hadd : dpGrpcAddReply r m msg = (dpGrpcAllocReply r m).map (·.push msg) := by
        rw [dpGrpcAddReply, h.capacity, if_pos (by omega)]
      rw [hfull, List.drop_zero, List.forall_mem_cons]
      cases m with
      | none =>
        have hnone : dpGrpcAddReply r none msg = none := by
          rw [hadd, dpGrpcAllocReply, if_neg hcap', if_neg hone]
          rfl
        have hih := ih h hr
        rw [hfull, List.drop_zero] at hih
        rw [Responder.addAll, hnone]
        exact hih.trans (by simp)
      | some buf =>
        obtain ⟨r₁, hr₁⟩ : ∃ r₁, dpGrpcAllocReply r (some buf) = some r₁ := by
          rw [dpGrpcAllocReply, if_neg hcap', if_neg hone]
          exact ⟨_, rfl⟩
        have hne := (h.alloc hcap.2 (by have := h.room; omega) hr₁).2.2
        rw [hr₁] at hadd
        rw [Responder.addAll, hadd]
        refine iff_of_false (addAll_replies_ne_nil as hne) ?_
        rintro ⟨hm, -⟩
        cases hm

end Filling

/-! ## Reading a chain -/

section Reading

variable {t : RequestType} {c : CallReply M} {h : Handling M}

/-- The messages that the gRPC thread takes from a buffer. -/
def Reply.taken (b : Reply M) : List M := if b.errCode = grpcOk then b.parse else []

theorem CallReply.read_eq (c : CallReply M) (b : Reply M) :
    c.read b = { status := some b.errCode, messages := c.messages ++ b.taken } := by
  unfold CallReply.read Reply.taken
  split
  · rfl
  · rw [List.append_nil]

/-- A chain is read to its end; the status is the error code of the last buffer. -/
theorem multiHandleReply_chain {last : Reply M} (hl : last.type = t ∧ last.isChained = false) (ring bs : List (Reply M))
    (hbs : ∀ b ∈ bs, b.type = t ∧ b.isChained = true) : ∀ c : CallReply M,
    multiHandleReply t c (bs ++ last :: ring) =
      (.ok, { status := some last.errCode, messages := c.messages ++ (bs ++ [last]).flatMap Reply.taken }, ring) := by
  induction bs with
  | nil =>
    intro c
    rw [List.nil_append, multiHandleReply, if_neg (not_not_intro hl.1), hl.2, if_neg Bool.false_ne_true, c.read_eq]
    simp
  | cons b bs ih =>
    intro c
    obtain ⟨htype, hchain⟩ := hbs b List.mem_cons_self
    rw [List.cons_append, multiHandleReply, if_neg (not_not_intro htype), if_pos hchain,
      ih (fun b hb => hbs b (List.mem_cons_of_mem _ hb)), c.read_eq]
    simp [List.append_assoc]

/-- All messages of a handler are in one buffer: it adds no more than fit, or no further buffer is to be had. -/
def Handling.OneReply (h : Handling M) : Prop := ∀ a ∈ h.adds.drop h.capacity, a.2 = none

/-- The replies to a request. -/
def Served.response (sv : Served M) : List (Reply M) := (handle sv.type sv.buf sv.handling).1.response sv.handling.ret

/-- The messages that were added for a request. -/
def Served.added (sv : Served M) : List M := (handle sv.type sv.buf sv.handling).2

/-- What a call makes of the replies to its request. -/
structure Delivered (f : Finished M) (sv : Served M) : Prop where
  ok : f.failed = false
  status : f.reply.status = some sv.handling.ret ↔ sv.handling.ret = grpcOk ∨ sv.handling.OneReply
  messages : sv.handling.ret = grpcOk → f.reply.messages = sv.added

theorem handle_replies_nil (sv : Served M) : (handle sv.type sv.buf sv.handling).1.replies = [] ↔
    sv.handling.OneReply := by
  have hf := Filling.init sv.type sv.buf sv.handling
  have hnil := addAll_replies_nil sv.handling.capacity_bounds sv.handling.adds hf (by cases sv.handling.msgSize <;> rfl)
  have hzero : (sv.handling.msgSize.elim (dpGrpcInitResponder sv.type sv.buf) fun n =>
      dpGrpcSetMultireply (dpGrpcInitResponder sv.type sv.buf) n.1).repMsgcount.toNat = 0 := by
    cases sv.handling.msgSize <;> rfl
  rwa [hzero, Nat.sub_zero] at hnil

theorem length_setErrCode (ret : UInt32) (bs : List (Reply M)) : (setErrCode ret bs).length = bs.length := by
  cases bs <;> rfl

/-- The ring has room for all replies to one request. -/
theorem response_length (sv : Served M) : sv.response.length ≤ ringCapacity := by
  have hcount : sv.response.length = (handle sv.type sv.buf sv.handling).1.repcount := by
    rw [Served.response, Responder.response, length_setErrCode, List.length_append, List.length_singleton]
    rfl
  rw [hcount]
  exact Nat.le_trans (handle_filling sv.type sv.buf sv.handling).repcount (by decide)

/-- **The replies to a list request** are read to their end, and nothing is left of them. -/
theorem multiHandleReply_response (sv : Served M) : ∃ c,
    multiHandleReply sv.type {} sv.response = (.ok, c, []) ∧ Delivered ⟨false, c⟩ sv := by
  have hf := handle_filling sv.type sv.buf sv.handling
  have hnil := handle_replies_nil sv
  have hmsgs : sv.added = _ := hf.messages.symm
  unfold Served.response Responder.response
  generalize (handle sv.type sv.buf sv.handling).1 = r at *
  cases hr : r.replies with
  | nil =>
    let b : Reply M := { r.rep with msgCount := r.repMsgcount, errCode := sv.handling.ret }
    have hb : b.type = sv.type ∧ b.isChained = false := hf.current
    refine ⟨_, multiHandleReply_chain hb [] [] (by simp) {}, rfl, ?_, fun hret => ?_⟩
    · exact iff_of_true rfl (.inr (hnil.mp hr))
    · have htaken : b.taken = r.rep.slots r.repMsgcount.toNat := if_pos hret
      rw [hmsgs, hr]
      exact (List.append_nil _).trans htaken
  | cons x xs =>
    let b : Reply M := { r.rep with msgCount := r.repMsgcount }
    let x' : Reply M := { x with errCode := sv.handling.ret }
    have hb : b.type = sv.type ∧ b.isChained = false := hf.current
    have hxs : ∀ y ∈ x' :: xs, y.type = sv.type ∧ y.isChained = true := by
      have hfull := hf.full
      rw [hr] at hfull
      intro y hy
      rcases List.mem_cons.mp hy with rfl | hy
      · exact hfull x List.mem_cons_self
      · exact hfull y (List.mem_cons_of_mem _ hy)
    have hnoErr : (∀ y ∈ xs, y.errCode = grpcOk) ∧ b.errCode = grpcOk := by
      have h0 := hf.noErr
      rw [Responder.errCodes, hr, List.map_cons, List.cons_append, List.tail_cons] at h0
      exact ⟨fun y hy => h0 _ (List.mem_append_left _ (List.mem_map_of_mem hy)),
        h0 _ (List.mem_append_right _ (List.mem_singleton_self _))⟩
    have hne : ¬ sv.handling.OneReply := fun h => by
      rw [hnil.mpr h] at hr
      cases hr
    refine ⟨_, multiHandleReply_chain hb [] (x' :: xs) hxs {}, rfl, ?_, fun hret => ?_⟩
    · rw [hnoErr.2, Option.some.injEq, or_iff_left hne]
      exact eq_comm
    · have htaken : ∀ y ∈ x' :: xs, y.taken = y.parse := by
        intro y hy
        rcases List.mem_cons.mp hy with rfl | hy
        · exact if_pos hret
        · exact if_pos (hnoErr.1 y hy)
      have hlast : b.taken = r.rep.slots r.repMsgcount.toNat := if_pos hnoErr.2
      rw [hmsgs, hr, List.nil_append, List.flatMap_append, List.flatMap_congr htaken, List.flatMap_singleton, hlast]
      rfl

/-- The reply to any other request. -/
theorem singleHandleReply_response (sv : Served M) (hadds : sv.handling.adds = []) : ∃ c,
    singleHandleReply sv.type {} sv.response = (.ok, c, []) ∧ Delivered ⟨false, c⟩ sv := by
  have hone : sv.handling.OneReply := by
    rw [Handling.OneReply, hadds, List.drop_nil]
    exact fun a ha => absurd ha List.not_mem_nil
  have hresp : ∃ b : Reply M, sv.response = [b] ∧ b.type = sv.type ∧ b.isChained = false ∧ b.msgCount = 0 ∧
      b.errCode = sv.handling.ret ∧ sv.added = [] := by
    unfold Served.response Served.added handle
    rw [hadds]
    cases sv.handling.msgSize <;> exact ⟨_, rfl, rfl, rfl, rfl, rfl, rfl⟩
  obtain ⟨b, hb, htype, hchain, hcount, herr, hadded⟩ := hresp
  refine ⟨CallReply.read {} b, ?_, rfl, ?_, fun _ => ?_⟩
  · simp [hb, singleHandleReply, htype, hchain, hcount]
  · exact iff_of_true (congrArg some herr) (.inr hone)
  · rw [hadded, CallReply.read_eq]
    simp [Reply.taken, Reply.parse, Reply.slots, hcount]

/-- **The replies to a request** are read to their end, and nothing is left of them. -/
theorem handleReply_response (sv : Served M) (h : sv.type.isMulti = true ∨ sv.handling.adds = []) : ∃ c,
    handleReply sv.type {} sv.response = (.ok, c, []) ∧ Delivered ⟨false, c⟩ sv := by
  unfold handleReply
  split
  next hm => exact multiHandleReply_response sv
  next hm => exact singleHandleReply_response sv (h.resolve_left hm)

end Reading

/-! ## Runs of both threads -/

/-- Where a call is: none is open, its request is on the way, or all of its replies are there. -/
inductive IpcPhase (s : Ipc M) : Prop
  | idle (call : s.call = none) (tx : s.tx = []) (rx : s.rx = []) (hist : List.Forall₂ Delivered s.finished s.served)
  | sent (type : RequestType) (call : s.call = some type) (tx : s.tx = [type]) (rx : s.rx = []) (reply : s.reply = {})
      (hist : List.Forall₂ Delivered s.finished s.served)
  | answered (sv : Served M) (served : List (Served M)) (call : s.call = some sv.type) (tx : s.tx = [])
      (rx : s.rx = sv.response) (reply : s.reply = {}) (kind : sv.type.isMulti = true ∨ sv.handling.adds = [])
      (last : s.served = served ++ [sv]) (hist : List.Forall₂ Delivered s.finished served)

section Runs

variable {s s' : Ipc M} {ev : IpcEvent M} {es : List (IpcEvent M)}

/-- A reply that is there is read at the next look. -/
theorem poll_answered {sv : Served M} (hcall : s.call = some sv.type) (hrx : s.rx = sv.response) (hreply : s.reply = {})
    (hkind : sv.type.isMulti = true ∨ sv.handling.adds = []) : ∃ c, Delivered ⟨false, c⟩ sv ∧
      ipcStep s .poll = some { s with rx := [], reply := c, call := none, finished := s.finished ++ [⟨false, c⟩] } := by
  obtain ⟨c, hc, hd⟩ := handleReply_response sv hkind
  refine ⟨c, hd, ?_⟩
  simp only [ipcStep, hcall, hrx, hreply, hc]

theorem IpcPhase.step (h : IpcPhase s) (hs : ipcStep s ev = some s') : IpcPhase s' := by
  cases ev with
  | call type =>
    simp only [ipcStep] at hs
    split at hs
    next hnone =>
      cases hs
      cases h with
      | idle call tx rx hist => exact .sent type rfl (by simp [tx]) rx rfl hist
      | sent type call => simp [call] at hnone
      | answered sv served call => simp [call] at hnone
    · cases hs
  | work buf h' =>
    simp only [ipcStep] at hs
    split at hs
    · cases hs
    next type tx htx =>
      split at hs
      next hkind =>
        cases hs
        cases h with
        | idle call tx' rx hist => simp [tx'] at htx
        | answered sv served call tx' => simp [tx'] at htx
        | sent type' call tx' rx reply hist =>
          rw [tx', List.cons.injEq] at htx
          obtain ⟨rfl, rfl⟩ := htx
          refine .answered ⟨type', buf, h'⟩ s.served call rfl ?_ reply (by simpa using hkind) rfl hist
          change enqueueBurst s.rx (Served.response ⟨type', buf, h'⟩) = _
          rw [enqueueBurst, rx, List.nil_append]
          exact List.take_of_length_le (response_length _)
      · cases hs
  | poll =>
    cases h with
    | idle call => simp [ipcStep, call] at hs
    | sent type call tx rx reply hist =>
      have hempty : handleReply type s.reply s.rx = (.notReady, {}, []) := by
        rw [rx, reply, handleReply]
        split <;> rfl
      simp only [ipcStep, call, hempty, Option.some.injEq] at hs
      subst hs
      exact .sent type rfl tx rfl rfl hist
    | answered sv served call tx rx reply kind last hist =>
      obtain ⟨c, hd, hpoll⟩ := poll_answered call rx reply kind
      rw [hpoll, Option.some.injEq] at hs
      subst hs
      refine .idle rfl tx rfl ?_
      rw [last]
      exact List.rel_append hist (.cons hd .nil)

/-- **Every call gets its own answer**, in whatever order the two threads take their turns. -/
theorem ipc_run (h : run ipcStep {} es = some s) : IpcPhase s :=
  run_invariant (P := fun _ _ => True) (fun _ _ _ hp _ hs => hp.step hs) (.idle rfl rfl rfl .nil) (along_true _ _) h

/-- The call ends with the code that the handler returned and, without an error, with the messages it added. -/
def Faithful (f : Finished M) (sv : Served M) : Prop :=
  f.failed = false ∧ f.reply.status = some sv.handling.ret ∧
    (sv.handling.ret = grpcOk → f.reply.messages = sv.added)

theorem Delivered.faithful_iff {f : Finished M} {sv : Served M} (h : Delivered f sv) :
    Faithful f sv ↔ sv.handling.ret = grpcOk ∨ sv.handling.OneReply :=
  ⟨fun hf => h.status.mp hf.2.1, fun hc => ⟨h.ok, h.status.mpr hc, h.messages⟩⟩

/-- How the calls end: the `i`-th one faithfully exactly where there was no error or all messages are in one buffer. In
any case a call ends when the gRPC thread looks for its reply after the worker has handled the request, and the ring is
empty then. -/
structure CallsEnd (s : Ipc M) : Prop where
  faithful : ∀ (i : ℕ) f sv, s.finished[i]? = some f → s.served[i]? = some sv →
    (Faithful f sv ↔ sv.handling.ret = grpcOk ∨ sv.handling.OneReply)
  drained : s.call = none → s.rx = [] ∧ s.finished.length = s.served.length
  ends : s.call ≠ none → s.tx = [] → ∃ f, ipcStep s .poll =
    some { s with rx := [], reply := f.reply, call := none, finished := s.finished ++ [f] }

/-- **Replies are delivered faithfully** exactly where there is no error or all messages are in one buffer. -/
theorem reply_faithful_iff (h : run ipcStep {} es = some s) : CallsEnd s := by
  have hget : ∀ {l : List (Finished M)} {l' : List (Served M)}, List.Forall₂ Delivered l l' →
      ∀ (i : ℕ) f sv, l[i]? = some f → l'[i]? = some sv → Delivered f sv := by
    intro l l' hl
    induction hl with
    | nil => simp
    | cons hd _ ih =>
      intro i f sv hf hsv
      cases i with
      | zero =>
        cases hf
        cases hsv
        exact hd
      | succ i => exact ih i f sv hf hsv
  cases ipc_run h with
  | idle call tx rx hist =>
    exact ⟨fun i f sv hf hsv => (hget hist i f sv hf hsv).faithful_iff, fun _ => ⟨rx, hist.length_eq⟩,
      fun hne => absurd call hne⟩
  | sent type call tx rx reply hist =>
    refine ⟨fun i f sv hf hsv => (hget hist i f sv hf hsv).faithful_iff, fun hn => ?_, fun _ htx => ?_⟩
    · simp [call] at hn
    · simp [tx] at htx
  | answered sv served call tx rx reply kind last hist =>
    obtain ⟨c, -, hpoll⟩ := poll_answered call rx reply kind
    refine ⟨fun i f sv' hf hsv => ?_, fun hn => ?_, fun _ _ => ⟨⟨false, c⟩, hpoll⟩⟩
    · have hlt : i < served.length := hist.length_eq ▸ (List.getElem?_eq_some_iff.mp hf).1
      rw [last, List.getElem?_append_left hlt] at hsv
      exact (hget hist i f sv' hf hsv).faithful_iff
    · simp [call] at hn

end Runs

/-! ### Long lists -/

/-- A buffer as it comes from the pool. -/
def blankReply : Reply ℕ := ⟨.reqInitialize, false, 0, 0, fun _ => 0⟩

/-- A handler that lists `n` interfaces of 240 bytes, of which eight fit into a buffer, while the pool has buffers for
the first `k` of them. -/
def listIfaces (n k : ℕ) (ret : UInt32) : Handling ℕ where
  msgSize := some ⟨240, by decide⟩
  adds := (List.range n).map fun i => (i, if i < k then some blankReply else none)
  ret := ret

def listCall (h : Handling ℕ) : List (IpcEvent ℕ) := [.call .listInterfaces, .poll, .work blankReply h, .poll]

/-- Twenty interfaces in three buffers. -/
theorem reply_faithful_twenty :
    ∃ s, run ipcStep {} (listCall (listIfaces 20 20 grpcOk)) = some s ∧
      s.finished.map (·.reply.messages) = [List.range 20] ∧ CallsEnd s := by
  refine exists_some_imp (P := fun s => s.finished.map (·.reply.messages) = [List.range 20]) (by decide) ?_
  intro s hs hm
  exact ⟨hm, reply_faithful_iff hs⟩

/-- The pool is empty when the seventeenth interface is listed: the handler returns `DP_GRPC_ERR_OUT_OF_MEMORY`, and the
call ends with `DP_GRPC_OK` and the second half of the list. -/
theorem reply_error_lost :
    ∃ s, run ipcStep {} (listCall (listIfaces 17 16 208)) = some s ∧ ∃ f sv,
      s.finished = [f] ∧ s.served = [sv] ∧ sv.handling.ret = 208 ∧ f.reply.status = some grpcOk ∧
      f.reply.messages = [8, 9, 10, 11, 12, 13, 14, 15] ∧ ¬ Faithful f sv := by
  refine exists_some_imp (P := fun s => s.finished.length = 1 ∧ s.served.length = 1 ∧
    (∀ sv ∈ s.served, sv.handling.ret = 208) ∧ ∀ f ∈ s.finished, f.reply.status = some grpcOk ∧
      f.reply.messages = [8, 9, 10, 11, 12, 13, 14, 15]) (by decide) ?_
  rintro s - ⟨hfin, hserved, hret, hreply⟩
  obtain ⟨f, hf⟩ := List.length_eq_one_iff.mp hfin
  obtain ⟨sv, hsv⟩ := List.length_eq_one_iff.mp hserved
  replace hret := hret sv (by simp [hsv])
  replace hreply := hreply f (by simp [hf])
  refine ⟨f, sv, hf, hsv, hret, hreply.1, hreply.2, fun hfaith => ?_⟩
  have hstatus := hfaith.2.1
  rw [hreply.1, hret, Option.some.injEq] at hstatus
  exact absurd hstatus (by decide)

end Dpservice
