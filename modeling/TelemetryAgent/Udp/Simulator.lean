/-
  The simulator of the system's UDP data (udp_data_simulator/main.cpp), and its datagrams in the
  loop of `UdpReceiver::operator()`.

  Each turn puts the internal id in network order before a serialized message and sends both.
  The size of the message is that of a `std::string`, so it may hold any bytes, but it is copied
  into the buffer by `strncpy`, which ends at the first zero byte and fills the rest with zeros.

  * `sent_turn`: what a turn sends. It does not depend on what the buffer held.
  * `Unframes`: the receiver takes the datagram apart into the id and the message.
  * `unframes_turn_iff`: it does so exactly if the message has nothing but zeros after a zero.
-/
import TelemetryAgent.Udp.Datagrams

namespace TelemetryAgent

open Std Lib
open UdpReceiver (header payload)

/-! ## `strncpy` -/

/-- `c_str` -/
def cStr (s : List UInt8) : List UInt8 := s ++ [0]

def strncpy (dst src : List UInt8) (n : Nat) : List UInt8 :=
  let copied := (src.takeWhile (· ≠ 0)).take n
  copied ++ List.replicate (n - copied.length) 0 ++ dst.drop n

theorem length_strncpy (dst src : List UInt8) {n : Nat} (h : n ≤ dst.length) :
    (strncpy dst src n).length = dst.length := by
  have hle : ((src.takeWhile (· ≠ 0)).take n).length ≤ n := List.length_take_le _ _
  simp only [strncpy, List.length_append, List.length_replicate, List.length_drop]
  omega

/-- The bytes up to the first zero, and zeros after. -/
def zeroed (data : List UInt8) : List UInt8 :=
  data.takeWhile (· ≠ 0) ++ List.replicate (data.length - (data.takeWhile (· ≠ 0)).length) 0

theorem takeWhile_cStr (data : List UInt8) :
    (cStr data).takeWhile (· ≠ 0) = data.takeWhile (· ≠ 0) := by
  unfold cStr
  induction data with
  | nil => rfl
  | cons b data ih => by_cases hb : b = 0 <;> simp_all

theorem strncpy_cStr (dst data : List UInt8) :
    strncpy dst (cStr data) data.length = zeroed data ++ dst.drop data.length := by
  have hle : (data.takeWhile (· ≠ 0)).length ≤ data.length :=
    (List.takeWhile_sublist _).length_le
  unfold strncpy zeroed
  simp only [takeWhile_cStr, List.take_of_length_le hle]

theorem length_zeroed (data : List UInt8) : (zeroed data).length = data.length := by
  have hle : (data.takeWhile (· ≠ 0)).length ≤ data.length :=
    (List.takeWhile_sublist _).length_le
  rw [zeroed, List.length_append, List.length_replicate]
  omega

/-- After a zero byte there are only zero bytes. -/
def ZerosLast (data : List UInt8) : Prop := data.Pairwise fun a b => a = 0 → b = 0

instance (data : List UInt8) : Decidable (ZerosLast data) :=
  inferInstanceAs (Decidable (data.Pairwise _))

theorem zeroed_cons_zero (data : List UInt8) :
    zeroed (0 :: data) = List.replicate (data.length + 1) 0 := by
  simp [zeroed]

theorem zeroed_cons_of_ne {b : UInt8} (hb : b ≠ 0) (data : List UInt8) :
    zeroed (b :: data) = b :: zeroed data := by
  simp [zeroed, hb]

theorem zeroed_eq_self_iff (data : List UInt8) : zeroed data = data ↔ ZerosLast data := by
  induction data with
  | nil => simp [zeroed, ZerosLast]
  | cons b data ih =>
    unfold ZerosLast at ih ⊢
    by_cases hb : b = 0
    · subst hb
      rw [zeroed_cons_zero, List.replicate_succ, List.cons.injEq, eq_comm (b := data),
        List.eq_replicate_iff, List.pairwise_cons]
      constructor
      · intro h
        have hzero : ∀ a ∈ data, a = 0 := h.2.2
        exact ⟨fun a ha _ => hzero a ha, List.pairwise_of_forall_mem_list
          fun _ _ b hb _ => hzero b hb⟩
      · intro h
        exact ⟨rfl, rfl, fun a ha => h.1 a ha rfl⟩
    · rw [zeroed_cons_of_ne hb, List.cons.injEq, List.pairwise_cons, ih]
      constructor
      · intro h
        exact ⟨fun _ _ hzero => absurd hzero hb, h.2⟩
      · intro h
        exact ⟨rfl, h.2⟩

/-! ## The loop of `main` -/

/-- `BUF_SIZE` -/
def bufSize : Nat := 9000

/-- The bytes of `htonl`'s result as they lie in memory. -/
def htonl (n : UInt32) : List UInt8 :=
  [(n >>> 24).toUInt8, (n >>> 16).toUInt8, (n >>> 8).toUInt8, n.toUInt8]

/-- `_message`, by its bytes. -/
structure Message where
  iSubId : List UInt8
  buffer : List UInt8
  length_iSubId : iSubId.length = 4
  length_buffer : buffer.length = bufSize

namespace Message

/-- The variable `msg` at the start. -/
def msg : Message where
  iSubId := List.replicate 4 0
  buffer := List.replicate bufSize 0
  length_iSubId := rfl
  length_buffer := List.length_replicate

/-- `sendto` of the first bytes. -/
def sendto (msg : Message) (totalSoFar : Nat) : Datagram where
  val := (msg.iSubId ++ msg.buffer).take totalSoFar
  property := by
    have hid := msg.length_iSubId
    have hbuffer : msg.buffer.length = 9000 := msg.length_buffer
    have hle := List.length_take_le' totalSoFar (msg.iSubId ++ msg.buffer)
    rw [List.length_append] at hle
    unfold packetSize
    omega

def setSubId (msg : Message) (subId : UInt32) : Message :=
  { msg with iSubId := htonl subId, length_iSubId := rfl }

def fill (msg : Message) (data : List UInt8) (h : 4 + data.length < bufSize) : Message :=
  { msg with
    buffer := strncpy msg.buffer (cStr data) data.length
    length_buffer := by
      have hbuffer := msg.length_buffer
      rw [length_strncpy _ _ (by omega), hbuffer] }

/-- One turn, with the serialized message of it. A message that does not fit is left out, and the
    datagram is the id alone. -/
def turn (msg : Message) (subId : UInt32) (data : List UInt8) : Message × Datagram :=
  let totalSoFar := 4
  let msg := msg.setSubId subId
  if h : totalSoFar + data.length < bufSize then
    let msg := msg.fill data h
    (msg, msg.sendto (totalSoFar + data.length))
  else (msg, msg.sendto totalSoFar)

/-- The loop, by the datagrams that it sends. -/
def loop (msg : Message) (send : Nat) : List (List UInt8) → List Datagram
  | [] => []
  | data :: rest =>
    let (msg, d) := msg.turn (.ofNat (1000 + send % 4)) data
    d :: loop msg (send + 1) rest

/-! ## What is sent -/

/-- The id and the message as the buffer has it. -/
theorem sent_turn (msg : Message) (subId : UInt32) {data : List UInt8}
    (h : 4 + data.length < bufSize) :
    (msg.turn subId data).2.val = htonl subId ++ zeroed data := by
  have hbuffer : ((msg.setSubId subId).fill data h).buffer =
      zeroed data ++ msg.buffer.drop data.length := strncpy_cStr _ _
  have hlen : 4 + data.length = (htonl subId ++ zeroed data).length := by
    rw [List.length_append, length_zeroed]
    rfl
  have hturn : (msg.turn subId data).2 =
      ((msg.setSubId subId).fill data h).sendto (4 + data.length) := by
    rw [turn]
    simp only [h, dif_pos]
  have hid : ((msg.setSubId subId).fill data h).iSubId = htonl subId := rfl
  rw [hturn, sendto]
  simp only [hbuffer, hid]
  rw [← List.append_assoc, hlen, List.take_left]

theorem sent_turn_of_not_fits (msg : Message) (subId : UInt32) {data : List UInt8}
    (h : ¬ 4 + data.length < bufSize) : (msg.turn subId data).2.val = htonl subId := by
  have hturn : (msg.turn subId data).2 = (msg.setSubId subId).sendto 4 := by
    rw [turn]
    simp only [h, dif_neg, not_false_eq_true]
  have hlen : 4 = (htonl subId).length := rfl
  rw [hturn, sendto]
  show (htonl subId ++ msg.buffer).take 4 = htonl subId
  rw [hlen, List.take_left]

/-- What is sent at a turn is no matter of the turns before it. -/
theorem loop_eq (msg msg' : Message) (send : Nat) (datas : List (List UInt8)) :
    msg.loop send datas = msg'.loop send datas := by
  induction datas generalizing msg msg' send with
  | nil => rfl
  | cons data datas ih =>
    have hd : (msg.turn (.ofNat (1000 + send % 4)) data).2 =
        (msg'.turn (.ofNat (1000 + send % 4)) data).2 := by
      apply Subtype.ext
      by_cases h : 4 + data.length < bufSize
      · rw [sent_turn msg _ h, sent_turn msg' _ h]
      · rw [sent_turn_of_not_fits msg _ h, sent_turn_of_not_fits msg' _ h]
    exact List.cons_eq_cons.mpr ⟨hd, ih _ _ _⟩

end Message

/-! ## What is received -/

/-- The four bytes make up the number again. -/
theorem header_htonl (n : UInt32) (l : List UInt8) : header (htonl n ++ l) = n.toNat := by
  have hn := n.toNat_lt
  show (List.foldl _ 0 (htonl n)) = n.toNat
  simp only [htonl, List.foldl_cons, List.foldl_nil, UInt32.toNat_toUInt8,
    UInt32.toNat_shiftRight]
  have h24 : n.toNat >>> 24 = n.toNat / 2 ^ 24 := Nat.shiftRight_eq_div_pow _ _
  have h16 : n.toNat >>> 16 = n.toNat / 2 ^ 16 := Nat.shiftRight_eq_div_pow _ _
  have h8 : n.toNat >>> 8 = n.toNat / 2 ^ 8 := Nat.shiftRight_eq_div_pow _ _
  show 256 * (256 * (256 * (256 * 0 + n.toNat >>> 24 % 2 ^ 8) + n.toNat >>> 16 % 2 ^ 8) +
    n.toNat >>> 8 % 2 ^ 8) + n.toNat % 2 ^ 8 = n.toNat
  rw [h24, h16, h8]
  omega

theorem payload_htonl (n : UInt32) (l : List UInt8) : payload (htonl n ++ l) = l := rfl

/-- The id is received at each turn, with or without a message. -/
theorem header_turn (msg : Message) (subId : UInt32) (data : List UInt8) :
    header (msg.turn subId data).2.val = subId.toNat := by
  by_cases h : 4 + data.length < bufSize
  · rw [msg.sent_turn subId h, header_htonl]
  · rw [msg.sent_turn_of_not_fits subId h, ← List.append_nil (htonl subId), header_htonl]

namespace UdpReceiverLoop

variable {W : Type} [DecidableEq W]

/-- The loop reads the id from the datagram, and pushes the message to each worker of the id. -/
structure Unframes (s : UdpReceiverLoop W) (d : Datagram) (intId : Nat) (data : List UInt8) :
    Prop where
  read : header (s.countDatagram d).request.buf = intId
  queued : ∀ w, (s.receive d).q w =
    s.q w ++ List.replicate ((s.workers intId).count w) data

theorem unframes_htonl (s : UdpReceiverLoop W) {d : Datagram} {subId : UInt32}
    {data : List UInt8} (hd : d.val = htonl subId ++ data) :
    s.Unframes d subId.toNat data := by
  have hlen : 4 ≤ d.val.length := by
    rw [hd, List.length_append]
    exact Nat.le_add_right _ _
  have hheader : header d.val = subId.toNat := by rw [hd, header_htonl]
  refine ⟨(header_recvfrom s.request hlen).trans hheader, fun w => ?_⟩
  rw [q_receive s hlen w, hheader, hd, payload_htonl]

/-- A receiver with one worker, which is mapped to the id. -/
def oneWorker (intId : Nat) : UdpReceiverLoop Unit where
  request := { buf := List.replicate packetSize 0, length_buf := List.length_replicate }
  extIdWorkerStore := (∅ : ExtTreeMap Nat Unit).insert 0 ()
  intToExtListStore := (∅ : ExtTreeMap Nat (List Nat)).insert intId [0]

theorem workers_oneWorker (intId : Nat) : (oneWorker intId).workers intId = [()] := by
  unfold workers
  have hlist : (oneWorker intId).intToExtListStore[intId]? = some [0] :=
    ExtTreeMap.getElem?_insert_self
  have hworker : (oneWorker intId).extIdWorkerStore[0]? = some () :=
    ExtTreeMap.getElem?_insert_self
  rw [hlist, Option.getD_some, List.filterMap_cons_some hworker, List.filterMap_nil]

/-- The message of a datagram is what its worker gets. -/
theorem eq_of_unframes {d : Datagram} {intId : Nat} {sent data : List UInt8}
    (hsent : (oneWorker intId).Unframes d intId sent)
    (h : (oneWorker intId).Unframes d intId data) : sent = data := by
  have hq := (hsent.queued ()).symm.trans (h.queued ())
  rw [workers_oneWorker] at hq
  exact (List.cons.inj (List.append_cancel_left hq)).1

theorem zerosLast_of_unframes {msg : Message} {subId : UInt32} {data : List UInt8}
    (hfits : 4 + data.length < bufSize)
    (h : (oneWorker subId.toNat).Unframes (msg.turn subId data).2 subId.toNat data) :
    ZerosLast data :=
  (zeroed_eq_self_iff data).mp (eq_of_unframes (unframes_htonl _ (msg.sent_turn subId hfits)) h)

/-- A message that fits is received as it was exactly if it has its zeros at its end. -/
theorem unframes_turn_iff (msg : Message) (subId : UInt32) {data : List UInt8}
    (hfits : 4 + data.length < bufSize) :
    (∀ (W : Type) [DecidableEq W] (s : UdpReceiverLoop W),
        s.Unframes (msg.turn subId data).2 subId.toNat data) ↔ ZerosLast data := by
  constructor
  · intro h
    exact zerosLast_of_unframes hfits (h Unit (oneWorker subId.toNat))
  · intro h W _ s
    have hsent := msg.sent_turn subId hfits
    rw [(zeroed_eq_self_iff data).mpr h] at hsent
    exact unframes_htonl s hsent

/-- The entries `a` and `b` of a message, with the values 0 and 1. -/
def zeroValue : List UInt8 :=
  [0x3a, 0x05, 0x0a, 0x01, 0x61, 0x30, 0x00, 0x3a, 0x05, 0x0a, 0x01, 0x62, 0x30, 0x01]

/-- With the entry `b` only, it is received. -/
theorem unframes_turn_drop_zeroValue :
    (oneWorker 1000).Unframes (Message.msg.turn 1000 (zeroValue.drop 7)).2 1000
      (zeroValue.drop 7) :=
  (unframes_turn_iff Message.msg 1000 (by decide)).mpr (by decide) Unit (oneWorker 1000)

/-- With both it is not, as all that follows the value 0 is sent as zeros. -/
theorem not_unframes_turn_zeroValue :
    ¬ ∀ (msg : Message) (subId : UInt32) (data : List UInt8), 4 + data.length < bufSize →
      ∀ (W : Type) [DecidableEq W] (s : UdpReceiverLoop W),
        s.Unframes (msg.turn subId data).2 subId.toNat data := by
  intro h
  have hlast : ZerosLast zeroValue :=
    zerosLast_of_unframes (by decide) (h Message.msg 1000 zeroValue (by decide) Unit _)
  exact absurd hlast (by decide)

end UdpReceiverLoop

end TelemetryAgent
