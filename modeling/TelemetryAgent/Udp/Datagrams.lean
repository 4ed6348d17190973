/-
  The loop of `UdpReceiver::operator()` (UdpReceiver.cpp) on datagrams of any length.

  The buffer is used again for each datagram, and the four bytes of the header are read from it
  however many of them were received. The payload's length is `no_of_bytes-sizeof(id_idx_t)` in
  64 bits, and its bytes are those between two pointers, the second of which is below the first
  if there are less than four.

  * `Accounts`: what one datagram is to change. `Accounted` is that for all of a run, with the
    total of the bytes.
  * `accounted_iff`: a run is accounted exactly if each datagram has its header and the bytes of
    all of them fit in a counter.
  * `simulates_run`: while each has its header, the loop does what Udp/Receiver says.
-/
import Mathlib.Logic.Function.Basic
import TelemetryAgent.Lib.OrderedMap
import TelemetryAgent.Lib.Run
import TelemetryAgent.Udp.Receiver

namespace TelemetryAgent

open Std Lib

/-! ## The loop -/

/-- `PACKET_SIZE` -/
def packetSize : Nat := 65535

/-- What `recvfrom` may receive. -/
abbrev Datagram := {d : List UInt8 // d.length ≤ packetSize}

/-- `Request`, without the sender. What `malloc` gives is not initialized. -/
structure Request where
  buf : List UInt8
  length_buf : buf.length = packetSize

/-- The bytes after the received ones stay. -/
def Request.recvfrom (r : Request) (d : Datagram) : Request where
  buf := d.val ++ r.buf.drop d.val.length
  length_buf := by
    have hd := d.property
    rw [List.length_append, List.length_drop, r.length_buf]
    omega

/-- What the receiver's thread reads and writes, with the queues `_q` of the workers. `aborted`
    is set where the source makes a vector of a range that ends before it begins. -/
structure UdpReceiverLoop (W : Type) where
  request : Request
  extIdWorkerStore : ExtTreeMap Nat W := ∅
  intToExtListStore : ExtTreeMap Nat (List Nat) := ∅
  messages : Counter64 := { name := "UdpReceiver-MessageCounter" }
  statsTopics : ExtTreeMap Nat Counter64 := ∅
  totalPktsReceived : UInt64 := 0
  workerNotFound : UInt64 := 0
  intToExtListNotFound : UInt64 := 0
  recvfromError : UInt64 := 0
  q : W → List (List UInt8) := fun _ => []
  aborted : Bool := false

/-- `others` is what other threads do to the stores and the queues between two datagrams. -/
inductive UdpEvent (W : Type)
  | datagram (d : Datagram)
  | error
  | others (extIdWorkerStore : ExtTreeMap Nat W) (intToExtListStore : ExtTreeMap Nat (List Nat))
      (q : W → List (List UInt8))

namespace UdpReceiverLoop

open UdpReceiver (header payload)

variable {W : Type} [DecidableEq W]

/-- `_q.push` -/
def push (s : UdpReceiverLoop W) (wp : W) (vec : List UInt8) : UdpReceiverLoop W :=
  { s with q := Function.update s.q wp (s.q wp ++ [vec]) }

/-- The loop over the list of external ids. -/
def deliver (s : UdpReceiverLoop W) (noOfBytes : Nat) : List Nat → UdpReceiverLoop W
  | [] => s
  | extId :: v =>
    match s.extIdWorkerStore[extId]? with
    | some wp =>
      if noOfBytes < 4 then { s with aborted := true }
      else deliver (s.push wp ((s.request.buf.take noOfBytes).drop 4)) noOfBytes v
    | none => deliver { s with workerNotFound := s.workerNotFound + 1 } noOfBytes v

/-- The counters of a datagram. -/
def countDatagram (s : UdpReceiverLoop W) (d : Datagram) : UdpReceiverLoop W :=
  let noOfBytes : UInt64 := .ofNat d.val.length
  let request := s.request.recvfrom d
  let intId := header request.buf
  let counter := (s.statsTopics[intId]?).getD { name := toString intId }
  { s with
    request := request
    totalPktsReceived := s.totalPktsReceived + 1
    messages := s.messages.increment 1 noOfBytes
    statsTopics := s.statsTopics.insert intId (counter.increment 1 (noOfBytes - 4)) }

def receive (s : UdpReceiverLoop W) (d : Datagram) : UdpReceiverLoop W :=
  let s := s.countDatagram d
  match s.intToExtListStore[header s.request.buf]? with
  | some v => s.deliver d.val.length v
  | none => { s with intToExtListNotFound := s.intToExtListNotFound + 1 }

def handle (s : UdpReceiverLoop W) : UdpEvent W → UdpReceiverLoop W
  | .datagram d => s.receive d
  | .error => { s with recvfromError := s.recvfromError + 1 }
  | .others extIdWorkerStore intToExtListStore q =>
    { s with extIdWorkerStore, intToExtListStore, q }

def step (s : UdpReceiverLoop W) (e : UdpEvent W) : Option (UdpReceiverLoop W) :=
  if s.aborted then none else some (s.handle e)

/-! ## What is to be accounted -/

/-- The packets and the bytes counted for an internal id. -/
def counted (s : UdpReceiverLoop W) (intId : Nat) : Nat × Nat :=
  let counter := (s.statsTopics[intId]?).getD {}
  (counter.packets.toNat, counter.bytes.toNat)

/-- The workers that a datagram of an internal id is for, as often as it is. -/
def workers (s : UdpReceiverLoop W) (intId : Nat) : List W :=
  ((s.intToExtListStore[intId]?).getD []).filterMap fun extId => s.extIdWorkerStore[extId]?

/-- The datagram is counted and queued as that of its own header, and nothing else is. -/
structure Attributed (s : UdpReceiverLoop W) (d : List UInt8) (s' : UdpReceiverLoop W) :
    Prop where
  counted : s'.counted (header d) =
    ((s.counted (header d)).1 + 1, (s.counted (header d)).2 + (d.length - 4))
  other : ∀ i, i ≠ header d → s'.counted i = s.counted i
  queued : ∀ w, s'.q w = s.q w ++ List.replicate ((s.workers (header d)).count w) (payload d)
  aborted : s'.aborted = false

/-- Nothing is counted for an id, and nothing is queued. -/
structure Ignored (s s' : UdpReceiverLoop W) : Prop where
  statsTopics : s'.statsTopics = s.statsTopics
  q : s'.q = s.q
  aborted : s'.aborted = false

/-- What one event is to change. -/
structure Accounts (s : UdpReceiverLoop W) (e : UdpEvent W) (s' : UdpReceiverLoop W) :
    Prop where
  long : ∀ d, e = .datagram d → 4 ≤ d.val.length → Attributed s d.val s'
  short : ∀ d, e = .datagram d → d.val.length < 4 → Ignored s s'
  monotone : ∀ i, (s.counted i).2 ≤ (s'.counted i).2

def datagrams (es : List (UdpEvent W)) : List (List UInt8) :=
  es.filterMap fun e => match e with
    | .datagram d => some d.val
    | _ => none

def totalBytes (l : List (List UInt8)) : Nat := (l.map List.length).sum

/-- The bytes of the datagrams without a header. -/
def shortBytes (es : List (UdpEvent W)) : Nat :=
  totalBytes ((datagrams es).filter fun d => d.length < 4)

/-- The total is what is counted for the ids, a header for each packet of them, and `short`. -/
def Balanced (s : UdpReceiverLoop W) (short : Nat) : Prop :=
  s.messages.bytes.toNat = sumValues (fun c => c.bytes.toNat) s.statsTopics +
    4 * sumValues (fun c => c.packets.toNat) s.statsTopics + short

/-- Each event of the run changes what it is to change, and the total is right all along. -/
structure Accounted (s : UdpReceiverLoop W) (es : List (UdpEvent W)) : Prop where
  steps : Meets step (fun s e => ∀ s', step s e = some s' → Accounts s e s') s es
  total : ∀ pre suf t, es = pre ++ suf → run step s pre = some t → Balanced t (shortBytes pre)

/-! ## The buffer -/

theorem header_recvfrom (r : Request) {d : Datagram} (h : 4 ≤ d.val.length) :
    header (r.recvfrom d).buf = header d.val := by
  rw [header, header, Request.recvfrom, List.take_append_of_le_length h]

theorem payload_recvfrom (r : Request) (d : Datagram) :
    ((r.recvfrom d).buf.take d.val.length).drop 4 = payload d.val := by
  rw [Request.recvfrom, List.take_left, payload]

/-! ## The queues -/

theorem deliver_frame (s : UdpReceiverLoop W) (n : Nat) (v : List Nat) :
    (s.deliver n v).messages = s.messages ∧ (s.deliver n v).statsTopics = s.statsTopics := by
  induction v generalizing s with
  | nil => exact ⟨rfl, rfl⟩
  | cons extId v ih =>
    unfold deliver
    split
    · split
      · exact ⟨rfl, rfl⟩
      · exact ih (s.push _ _)
    · exact ih { s with workerNotFound := s.workerNotFound + 1 }

/-- A payload with its header is pushed once for each worker found. -/
theorem q_deliver (s : UdpReceiverLoop W) {n : Nat} (hn : 4 ≤ n) (v : List Nat) (w : W) :
    (s.deliver n v).q w = s.q w ++ List.replicate
      ((v.filterMap fun extId => s.extIdWorkerStore[extId]?).count w)
      ((s.request.buf.take n).drop 4) := by
  induction v generalizing s with
  | nil => exact (List.append_nil _).symm
  | cons extId v ih =>
    unfold deliver
    cases hw : s.extIdWorkerStore[extId]? with
    | none =>
      rw [List.filterMap_cons_none hw]
      exact ih { s with workerNotFound := s.workerNotFound + 1 }
    | some wp =>
      rw [List.filterMap_cons_some hw]
      simp only [Nat.not_lt.mpr hn, if_false]
      rw [ih (s.push wp _)]
      by_cases hwp : w = wp
      · subst hwp
        simp [push, List.count_cons_self, List.replicate_succ]
      · simp [push, Function.update_of_ne hwp, List.count_cons_of_ne (Ne.symm hwp)]

theorem aborted_deliver (s : UdpReceiverLoop W) {n : Nat} (hn : 4 ≤ n) (v : List Nat) :
    (s.deliver n v).aborted = s.aborted := by
  induction v generalizing s with
  | nil => rfl
  | cons extId v ih =>
    unfold deliver
    split
    · rw [if_neg (Nat.not_lt.mpr hn)]
      exact ih (s.push _ _)
    · exact ih { s with workerNotFound := s.workerNotFound + 1 }

theorem receive_frame (s : UdpReceiverLoop W) (d : Datagram) :
    (s.receive d).messages = (s.countDatagram d).messages ∧
      (s.receive d).statsTopics = (s.countDatagram d).statsTopics := by
  unfold receive
  simp only []
  split
  · exact deliver_frame _ _ _
  · exact ⟨rfl, rfl⟩

theorem q_receive (s : UdpReceiverLoop W) {d : Datagram} (h : 4 ≤ d.val.length) (w : W) :
    (s.receive d).q w =
      s.q w ++ List.replicate ((s.workers (header d.val)).count w) (payload d.val) := by
  have hheader : header (s.countDatagram d).request.buf = header d.val :=
    header_recvfrom s.request h
  have hstore : (s.countDatagram d).intToExtListStore = s.intToExtListStore := rfl
  unfold receive workers
  simp only [hheader, hstore]
  cases s.intToExtListStore[header d.val]? with
  | none => exact (List.append_nil _).symm
  | some v =>
    simp only [Option.getD_some]
    rw [q_deliver _ h, ← payload_recvfrom s.request d]
    rfl

omit [DecidableEq W] in
/-- They are those that `UdpReceiver.receive` answers. -/
theorem receive_fst_eq_workers {s : UdpReceiverLoop W} {u : UdpReceiver W}
    (hext : u.extIdWorkerStore = s.extIdWorkerStore)
    (hint : u.intToExtListStore = s.intToExtListStore) (d : List UInt8) :
    (u.receive d).1 = s.workers (header d) := by
  rw [UdpReceiver.receive_fst, UdpReceiver.extIds, hext, hint]
  rfl

theorem aborted_receive (s : UdpReceiverLoop W) {d : Datagram} (h : 4 ≤ d.val.length) :
    (s.receive d).aborted = s.aborted := by
  unfold receive
  simp only []
  split
  · exact aborted_deliver _ h _
  · rfl

/-! ## The counters -/

theorem toNat_add_of_lt {a b : UInt64} (h : a.toNat + b.toNat < 2 ^ 64) :
    (a + b).toNat = a.toNat + b.toNat := by
  rw [UInt64.toNat_add, Nat.mod_eq_of_lt h]

theorem toNat_ofNat_length (d : Datagram) : (UInt64.ofNat d.val.length).toNat = d.val.length := by
  have hd : d.val.length ≤ 65535 := d.property
  rw [UInt64.toNat_ofNat', Nat.mod_eq_of_lt (by omega)]

theorem toNat_payloadLength {d : Datagram} (h : 4 ≤ d.val.length) :
    (UInt64.ofNat d.val.length - 4).toNat = d.val.length - 4 := by
  have hle : (4 : UInt64) ≤ UInt64.ofNat d.val.length := by
    rw [UInt64.le_iff_toNat_le, toNat_ofNat_length]
    exact h
  rw [UInt64.toNat_sub_of_le _ _ hle, toNat_ofNat_length]
  rfl

/-- The counter of an id, which is created when it is missing. -/
def counterOf (s : UdpReceiverLoop W) (intId : Nat) : Counter64 :=
  (s.statsTopics[intId]?).getD { name := toString intId }

omit [DecidableEq W] in
theorem counted_eq (s : UdpReceiverLoop W) (intId : Nat) :
    s.counted intId = ((s.counterOf intId).packets.toNat, (s.counterOf intId).bytes.toNat) := by
  unfold counted counterOf
  cases s.statsTopics[intId]? with
  | none => rfl
  | some c => rfl

theorem statsTopics_receive (s : UdpReceiverLoop W) (d : Datagram) :
    (s.receive d).statsTopics = s.statsTopics.insert (header (s.request.recvfrom d).buf)
      ((s.counterOf (header (s.request.recvfrom d).buf)).increment 1
        (.ofNat d.val.length - 4)) :=
  (receive_frame s d).2

theorem bytes_receive (s : UdpReceiverLoop W) (d : Datagram) :
    (s.receive d).messages.bytes = s.messages.bytes + .ofNat d.val.length := by
  rw [(receive_frame s d).1]
  rfl

theorem counted_receive_self (s : UdpReceiverLoop W) (d : Datagram) :
    (s.receive d).counted (header (s.request.recvfrom d).buf) =
      (((s.counterOf (header (s.request.recvfrom d).buf)).packets + 1).toNat,
        ((s.counterOf (header (s.request.recvfrom d).buf)).bytes +
          (.ofNat d.val.length - 4)).toNat) := by
  rw [counted, statsTopics_receive, ExtTreeMap.getElem?_insert_self]
  rfl

theorem counted_receive_of_ne (s : UdpReceiverLoop W) (d : Datagram) {i : Nat}
    (hi : i ≠ header (s.request.recvfrom d).buf) : (s.receive d).counted i = s.counted i := by
  rw [counted, statsTopics_receive, getElem?_insert_of_ne _ (Ne.symm hi)]
  rfl

/-- If the datagram is counted for its header, then both sums grow by what is counted. -/
theorem sums_receive {s : UdpReceiverLoop W} {d : Datagram} (h : 4 ≤ d.val.length)
    (hc : (s.receive d).counted (header d.val) =
      ((s.counted (header d.val)).1 + 1, (s.counted (header d.val)).2 + (d.val.length - 4))) :
    sumValues (fun c => c.bytes.toNat) (s.receive d).statsTopics =
        sumValues (fun c => c.bytes.toNat) s.statsTopics + (d.val.length - 4) ∧
      sumValues (fun c => c.packets.toNat) (s.receive d).statsTopics =
        sumValues (fun c => c.packets.toNat) s.statsTopics + 1 := by
  rw [← header_recvfrom s.request h, counted_receive_self, counted_eq, Prod.mk.injEq] at hc
  rw [statsTopics_receive]
  exact ⟨sumValues_insert_add _ _ rfl hc.2, sumValues_insert_add _ _ rfl hc.1⟩

/-! ## One event -/

/-- The datagram has its header, and its bytes fit in the total. -/
def Fits (s : UdpReceiverLoop W) : UdpEvent W → Prop
  | .datagram d => 4 ≤ d.val.length ∧ s.messages.bytes.toNat + d.val.length < 2 ^ 64
  | _ => True

/-- The loop is running and its total is right, without any datagram that had no header. -/
structure Running (s : UdpReceiverLoop W) : Prop where
  balanced : Balanced s 0
  aborted : s.aborted = false

theorem step_eq {s : UdpReceiverLoop W} (hs : s.aborted = false) (e : UdpEvent W) :
    step s e = some (s.handle e) := by
  unfold step
  rw [hs]
  rfl

omit [DecidableEq W] in
/-- A counter of an id has at most what the total has. -/
theorem counterOf_le {s : UdpReceiverLoop W} (hs : Running s) (intId : Nat) :
    (s.counterOf intId).bytes.toNat + 4 * (s.counterOf intId).packets.toNat ≤
      s.messages.bytes.toNat := by
  have hb := le_sumValues (fun c : Counter64 => c.bytes.toNat) s.statsTopics
    (k := intId) (d := { name := toString intId }) rfl
  have hp := le_sumValues (fun c : Counter64 => c.packets.toNat) s.statsTopics
    (k := intId) (d := { name := toString intId }) rfl
  have hbalanced := hs.balanced
  unfold Balanced at hbalanced
  unfold counterOf
  omega

theorem counted_receive {s : UdpReceiverLoop W} (hs : Running s) {d : Datagram}
    (h : Fits s (.datagram d)) :
    (s.receive d).counted (header d.val) =
      ((s.counted (header d.val)).1 + 1, (s.counted (header d.val)).2 + (d.val.length - 4)) := by
  obtain ⟨hlen, hfits⟩ := h
  have hle := counterOf_le hs (header d.val)
  have hpayload := toNat_payloadLength hlen
  have hone : (1 : UInt64).toNat = 1 := rfl
  have hself := counted_receive_self s d
  rw [header_recvfrom s.request hlen] at hself
  rw [hself, counted_eq, toNat_add_of_lt (by omega), toNat_add_of_lt (by omega), hpayload, hone]

theorem attributed_receive {s : UdpReceiverLoop W} (hs : Running s) {d : Datagram}
    (h : Fits s (.datagram d)) : Attributed s d.val (s.receive d) where
  counted := counted_receive hs h
  other i hi := by
    rw [← header_recvfrom s.request h.1] at hi
    exact counted_receive_of_ne s d hi
  queued := q_receive s h.1
  aborted := (aborted_receive s h.1).trans hs.aborted

theorem balanced_receive {s : UdpReceiverLoop W} (hs : Running s) {d : Datagram}
    (h : Fits s (.datagram d)) : Balanced (s.receive d) 0 := by
  obtain ⟨hb, hp⟩ := sums_receive h.1 (counted_receive hs h)
  obtain ⟨hlen, hfits⟩ := h
  have hbalanced := hs.balanced
  unfold Balanced at hbalanced
  have htotal : (s.messages.bytes + .ofNat d.val.length).toNat =
      s.messages.bytes.toNat + d.val.length := by
    rw [toNat_add_of_lt (by rw [toNat_ofNat_length]; exact hfits), toNat_ofNat_length]
  rw [Balanced, bytes_receive, htotal, hb, hp]
  omega

/-- The counter of a datagram without a header is changed all the same. -/
theorem not_ignored_receive (s : UdpReceiverLoop W) (d : Datagram) :
    ¬ Ignored s (s.receive d) := by
  intro h
  have hstats := h.statsTopics
  rw [statsTopics_receive] at hstats
  have hself : s.statsTopics[header (s.request.recvfrom d).buf]? =
      some ((s.counterOf (header (s.request.recvfrom d).buf)).increment 1
        (.ofNat d.val.length - 4)) := by
    conv_lhs => rw [← hstats]
    exact ExtTreeMap.getElem?_insert_self
  have hcounter : s.counterOf (header (s.request.recvfrom d).buf) =
      (s.counterOf (header (s.request.recvfrom d).buf)).increment 1
        (.ofNat d.val.length - 4) := by
    conv_lhs => rw [counterOf, hself, Option.getD_some]
  have hpackets := congrArg Counter64.packets hcounter
  simp [Counter64.increment] at hpackets

/-- The step lemma. -/
theorem accounts_of_fits {s s' : UdpReceiverLoop W} {e : UdpEvent W} (hs : Running s)
    (h : Fits s e) (hstep : step s e = some s') : Accounts s e s' ∧ Running s' := by
  rw [step_eq hs.aborted, Option.some.injEq] at hstep
  subst hstep
  cases e with
  | datagram d =>
    have ha := attributed_receive hs h
    refine ⟨⟨?_, ?_, ?_⟩, balanced_receive hs h, ha.aborted⟩
    · rintro d' he -
      obtain rfl := UdpEvent.datagram.inj he
      exact ha
    · rintro d' he hshort
      obtain rfl := UdpEvent.datagram.inj he
      exact absurd h.1 (Nat.not_le.mpr hshort)
    · intro i
      by_cases hi : i = header d.val
      · rw [hi]
        exact Nat.le_trans (Nat.le_add_right _ _) (Nat.le_of_eq (Prod.ext_iff.mp ha.counted).2.symm)
      · exact Nat.le_of_eq (congrArg Prod.snd (ha.other i hi)).symm
  | error => exact ⟨⟨by simp, by simp, fun _ => Nat.le_refl _⟩, hs.balanced, hs.aborted⟩
  | others extIdWorkerStore intToExtListStore q =>
    exact ⟨⟨by simp, by simp, fun _ => Nat.le_refl _⟩, hs.balanced, hs.aborted⟩

theorem fits_of_accounts {s : UdpReceiverLoop W} {e : UdpEvent W} (hs : Running s)
    (h : Accounts s e (s.handle e)) (hbalanced : Balanced (s.handle e) (shortBytes [e])) :
    Fits s e := by
  cases e with
  | datagram d =>
    have hlen : 4 ≤ d.val.length := by
      by_contra hlt
      exact not_ignored_receive s d (h.short d rfl (Nat.not_le.mp hlt))
    have hshort : shortBytes [UdpEvent.datagram (W := W) d] = 0 := by
      simp [shortBytes, datagrams, totalBytes, hlen]
    obtain ⟨hb, hp⟩ := sums_receive hlen (h.long d rfl hlen).counted
    have hbefore := hs.balanced
    unfold Balanced at hbefore hbalanced
    have hlt : (s.receive d).messages.bytes.toNat < 2 ^ 64 := UInt64.toNat_lt _
    rw [handle, hb, hp, hshort] at hbalanced
    exact ⟨hlen, by omega⟩
  | error => trivial
  | others extIdWorkerStore intToExtListStore q => trivial

/-! ## Runs -/

omit [DecidableEq W] in
theorem shortBytes_append (es fs : List (UdpEvent W)) :
    shortBytes (es ++ fs) = shortBytes es + shortBytes fs := by
  simp [shortBytes, datagrams, totalBytes, List.filterMap_append]

theorem shortBytes_eq_zero {s : UdpReceiverLoop W} {es : List (UdpEvent W)} (hs : Running s)
    (h : Meets step Fits s es) : shortBytes es = 0 := by
  induction es generalizing s with
  | nil => rfl
  | cons e es ih =>
    have hstep := step_eq hs.aborted e
    obtain ⟨he, hes⟩ := (meets_cons_of_step hstep).mp h
    rw [← List.singleton_append, shortBytes_append, ih (accounts_of_fits hs he hstep).2 hes]
    cases e with
    | datagram d => simp [shortBytes, datagrams, totalBytes, he.1]
    | error => rfl
    | others extIdWorkerStore intToExtListStore q => rfl

theorem running_of_meets {s t : UdpReceiverLoop W} {es : List (UdpEvent W)} (hs : Running s)
    (h : Meets step Fits s es) (hr : run step s es = some t) : Running t :=
  run_invariant (fun _ _ _ hs hc hstep => (accounts_of_fits hs hc hstep).2) hs h hr

theorem accounted_iff_meets {s : UdpReceiverLoop W} (hs : Running s) (es : List (UdpEvent W)) :
    Accounted s es ↔ Meets step Fits s es := by
  constructor
  · intro h
    by_contra hn
    obtain ⟨pre, e, suf, t, rfl, hpre, ht, he⟩ := exists_first_not_meets hn
    have hrunning := running_of_meets hs hpre ht
    have hstep := step_eq hrunning.aborted e
    have hend : run step s (pre ++ [e]) = some (t.handle e) := by
      rw [run_append, ht, Option.bind_some, run_cons, hstep]
      rfl
    have hbalanced := h.total (pre ++ [e]) suf _ (by simp) hend
    rw [shortBytes_append, shortBytes_eq_zero hs hpre, Nat.zero_add] at hbalanced
    have haccounts := ((meets_append.mp h.steps).2 t ht).1 _ hstep
    exact he (fits_of_accounts hrunning haccounts hbalanced)
  · intro h
    refine ⟨?_, ?_⟩
    · exact Meets.imp (fun _ _ _ hs hc hstep => (accounts_of_fits hs hc hstep).2)
        (fun _ _ hs hc _ hstep => (accounts_of_fits hs hc hstep).1) hs h
    · rintro pre suf t rfl ht
      have hpre := (meets_append.mp h).1
      rw [shortBytes_eq_zero hs hpre]
      exact (running_of_meets hs hpre ht).balanced

/-! ## The receiver with natural numbers -/

/-- The loop is where the receiver of Udp/Receiver is, with its counters modulo 2^64. -/
structure Simulates (s : UdpReceiverLoop W) (u : UdpReceiver W) : Prop where
  extIdWorkerStore : s.extIdWorkerStore = u.extIdWorkerStore
  intToExtListStore : s.intToExtListStore = u.intToExtListStore
  messages : s.messages = u.messages.wrap
  statsTopics : ∀ i : Nat, s.statsTopics[i]? = (u.statsTopics[i]?).map Counter.wrap
  totalPktsReceived : s.totalPktsReceived = .ofNat u.totalPktsReceived
  workerNotFound : s.workerNotFound = .ofNat u.workerNotFound
  intToExtListNotFound : s.intToExtListNotFound = .ofNat u.intToExtListNotFound
  aborted : s.aborted = false

section Simulation

variable {s : UdpReceiverLoop W} {u : UdpReceiver W}

theorem simulates_deliver (h : Simulates s u) {n : Nat} (hn : 4 ≤ n) (v : List Nat) :
    Simulates (s.deliver n v) (u.deliver v).2 := by
  induction v generalizing s u with
  | nil => exact h
  | cons extId v ih =>
    have hlookup : s.extIdWorkerStore[extId]? = u.extIdWorkerStore[extId]? := by
      rw [h.extIdWorkerStore]
    unfold deliver UdpReceiver.deliver
    rw [hlookup]
    cases u.extIdWorkerStore[extId]? with
    | none =>
      refine ih { h with workerNotFound := ?_ }
      rw [h.workerNotFound, UInt64.ofNat_add]
      rfl
    | some wp =>
      simp only [Nat.not_lt.mpr hn, if_false]
      exact ih ⟨h.extIdWorkerStore, h.intToExtListStore, h.messages, h.statsTopics,
        h.totalPktsReceived, h.workerNotFound, h.intToExtListNotFound, h.aborted⟩

omit [DecidableEq W] in
theorem simulates_countDatagram (h : Simulates s u) {d : Datagram} (hd : 4 ≤ d.val.length) :
    Simulates (s.countDatagram d) (u.countPacket d.val) := by
  have hheader := header_recvfrom s.request hd
  refine ⟨h.extIdWorkerStore, h.intToExtListStore, ?_, fun i => ?_, ?_, h.workerNotFound,
    h.intToExtListNotFound, h.aborted⟩
  · simp only [countDatagram, UdpReceiver.countPacket, Counter.wrap_increment, h.messages]
    rfl
  · simp only [countDatagram, UdpReceiver.countPacket, hheader, getElem?_insert_eq]
    split
    · have hlen : (UInt64.ofNat (d.val.length - 4)) = UInt64.ofNat d.val.length - 4 := by
        rw [UInt64.ofNat_sub hd]
        rfl
      rw [Option.map_some, Counter.wrap_increment, hlen, h.statsTopics]
      cases u.statsTopics[header d.val]? with
      | none => rfl
      | some c => rfl
    · exact h.statsTopics i
  · simp only [countDatagram, UdpReceiver.countPacket, h.totalPktsReceived, UInt64.ofNat_add]
    rfl

/-- On a datagram with its header the loop does what `UdpReceiver.receive` does, whose counters
    are natural numbers. -/
theorem simulates_receive (h : Simulates s u) {d : Datagram} (hd : 4 ≤ d.val.length) :
    Simulates (s.receive d) (u.receive d.val).2 ∧ ∀ w, (s.receive d).q w =
      s.q w ++ List.replicate ((u.receive d.val).1.count w) (payload d.val) := by
  have hc := simulates_countDatagram h hd
  have hheader : header (s.countDatagram d).request.buf = header d.val :=
    header_recvfrom s.request hd
  have hlookup : (s.countDatagram d).intToExtListStore[header d.val]? =
      (u.countPacket d.val).intToExtListStore[header d.val]? := by rw [hc.intToExtListStore]
  constructor
  · unfold receive UdpReceiver.receive
    simp only [hheader, hlookup]
    cases (u.countPacket d.val).intToExtListStore[header d.val]? with
    | some v => exact simulates_deliver hc hd v
    | none =>
      refine { hc with intToExtListNotFound := ?_ }
      rw [hc.intToExtListNotFound, UInt64.ofNat_add]
      rfl
  · intro w
    rw [receive_fst_eq_workers h.extIdWorkerStore.symm h.intToExtListStore.symm]
    exact q_receive s hd w

/-- The receiver with natural numbers after the datagrams of the events. -/
theorem simulates_run {ds : List Datagram} (h : Simulates s u) (hd : ∀ d ∈ ds, 4 ≤ d.val.length)
    {t : UdpReceiverLoop W} (hr : run step s (ds.map .datagram) = some t) :
    Simulates t (ds.foldl (fun u d => (u.receive d.val).2) u) := by
  induction ds generalizing s u with
  | nil => exact Option.some.inj hr ▸ h
  | cons d ds ih =>
    obtain ⟨s', hs, ht⟩ := run_cons_eq_some.mp hr
    rw [step_eq h.aborted, Option.some.injEq] at hs
    subst hs
    obtain ⟨hlen, hds⟩ := List.forall_mem_cons.mp hd
    exact ih (simulates_receive h hlen).1 hds ht

end Simulation

/-! ## From the start -/

/-- Nothing is received yet. -/
def new (request : Request) : UdpReceiverLoop W := { request }

omit [DecidableEq W] in
theorem running_new (request : Request) : Running (new request : UdpReceiverLoop W) where
  balanced := by simp [Balanced, new]
  aborted := rfl

omit [DecidableEq W] in
theorem fits_iff (s : UdpReceiverLoop W) (e : UdpEvent W) :
    Fits s e ↔ (∀ d ∈ datagrams [e], 4 ≤ d.length) ∧
      s.messages.bytes.toNat + totalBytes (datagrams [e]) < 2 ^ 64 := by
  have hlt : s.messages.bytes.toNat < 2 ^ 64 := UInt64.toNat_lt _
  cases e with
  | datagram d => simp [Fits, datagrams, totalBytes]
  | error => simpa [Fits, datagrams, totalBytes] using hlt
  | others extIdWorkerStore intToExtListStore q => simpa [Fits, datagrams, totalBytes] using hlt

theorem toNat_bytes_handle {s : UdpReceiverLoop W} {e : UdpEvent W} (h : Fits s e) :
    (s.handle e).messages.bytes.toNat =
      s.messages.bytes.toNat + totalBytes (datagrams [e]) := by
  cases e with
  | datagram d =>
    rw [handle, bytes_receive, toNat_add_of_lt (by rw [toNat_ofNat_length]; exact h.2),
      toNat_ofNat_length]
    simp [datagrams, totalBytes]
  | error => rfl
  | others extIdWorkerStore intToExtListStore q => rfl

theorem meets_fits_iff {s : UdpReceiverLoop W} (hs : Running s) (es : List (UdpEvent W)) :
    Meets step Fits s es ↔ (∀ d ∈ datagrams es, 4 ≤ d.length) ∧
      s.messages.bytes.toNat + totalBytes (datagrams es) < 2 ^ 64 := by
  induction es generalizing s with
  | nil =>
    have hlt : s.messages.bytes.toNat < 2 ^ 64 := UInt64.toNat_lt _
    simpa [datagrams, totalBytes] using hlt
  | cons e es ih =>
    have hstep := step_eq hs.aborted e
    have happend : datagrams (e :: es) = datagrams [e] ++ datagrams es := by
      rw [datagrams, ← List.singleton_append, List.filterMap_append]
      rfl
    have htotal : totalBytes (datagrams (e :: es)) =
        totalBytes (datagrams [e]) + totalBytes (datagrams es) := by
      rw [happend, totalBytes, List.map_append, List.sum_append]
      rfl
    rw [meets_cons_of_step hstep, htotal, happend]
    simp only [List.forall_mem_append]
    constructor
    · rintro ⟨he, hes⟩
      rw [ih (accounts_of_fits hs he hstep).2, toNat_bytes_handle he] at hes
      exact ⟨⟨((fits_iff s e).mp he).1, hes.1⟩, by omega⟩
    · rintro ⟨⟨he, hes⟩, hlt⟩
      have hfits : Fits s e := (fits_iff s e).mpr ⟨he, by omega⟩
      rw [ih (accounts_of_fits hs hfits hstep).2, toNat_bytes_handle hfits]
      exact ⟨hfits, hes, by omega⟩

/-- For every content of the buffer at the start and every sequence of events: each datagram
    changes what it is to change, and the total is right all along, exactly if each datagram has
    the four bytes of its header and the bytes of all of them are fewer than 2^64. -/
theorem accounted_iff (request : Request) (es : List (UdpEvent W)) :
    Accounted (new request) es ↔
      (∀ d ∈ datagrams es, 4 ≤ d.length) ∧ totalBytes (datagrams es) < 2 ^ 64 := by
  have hs : Running (new request : UdpReceiverLoop W) := running_new request
  have hzero : (new request : UdpReceiverLoop W).messages.bytes.toNat = 0 := rfl
  rw [accounted_iff_meets hs, meets_fits_iff hs, hzero, Nat.zero_add]

/-- Three bytes after a datagram of the internal id 1: they are taken for one of that id, whose
    bytes become one less. -/
theorem not_accounted_short : ¬ ∀ (request : Request) (es : List (UdpEvent Nat)),
    Accounted (new request) es := by
  intro h
  let first : Datagram := ⟨[0, 0, 0, 1, 9, 9, 9, 9], by decide⟩
  let short : Datagram := ⟨[0, 0, 0], by decide⟩
  let request : Request := ⟨List.replicate packetSize 0, List.length_replicate⟩
  have hsteps := (h request [.datagram first, .datagram short]).steps
  obtain ⟨-, hshort, -⟩ := (meets_cons_of_step rfl).mp hsteps
  have hignored := (hshort _ rfl).short short rfl (by decide)
  exact not_ignored_receive _ short hignored

end UdpReceiverLoop

end TelemetryAgent
