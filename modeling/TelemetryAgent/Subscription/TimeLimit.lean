/-
  The time limit of a subscription.

  `telemetrySubscribe` builds the limits from the request and enables the subscription, but
  nothing calls `start`, so the elapsed time that `expiredTime` compares with the limit is
  counted from the epoch. `limitsReached_handleAll`: with no record limit the flag is set by
  the first message handled at a clock reading of at least the limit. So messages handled
  within the limit leave the flag alone exactly if that message comes late enough
  (`timeLimit_iff_clock`); with the clock of any day since 1970 the first message of a
  ten-second subscription sets it (`timeLimit_first_message`).
-/
import TelemetryAgent.Subscription.Model

namespace TelemetryAgent

namespace AgentSubscription

/-- A message and the clock when it is handled. -/
structure Arrival where
  now : Int
  message : MosquittoMessage
  deriving DecidableEq, Repr

variable (config : GlobalConfig) (translate : MosquittoMessage → Translation)
  (handles : List AgentConsolidatorSystemHandle)

def handleAll (sub : AgentSubscription) : List Arrival → AgentSubscription
  | [] => sub
  | a :: as => handleAll (sub.onMessage config translate handles a.now a.message).2 as

/-- The subscription that `telemetrySubscribe` has turned on. -/
def opened (id : Nat) (systemHandle : HandlePtr) (pathList : List String)
    (request : SubscriptionAdditionalConfig) (active : Bool) : AgentSubscription :=
  ((createSubscription id systemHandle pathList (limitsOf request) active).enable).setActive true

theorem expired_of_no_record_limit {l : AgentSubscriptionLimits} (h : l.records = 0) (now : Int)
    (n : Nat) : l.expired now n = l.expiredTime now := by
  unfold AgentSubscriptionLimits.expired AgentSubscriptionLimits.expiredCount
  rw [if_pos h, Bool.or_false]

theorem limitsReached_handleAll (sub : AgentSubscription) (h : sub.limits.records = 0)
    (as : List Arrival) :
    (handleAll config translate handles sub as).limitsReached =
      (sub.limitsReached || as.any fun a => sub.limits.expiredTime a.now) := by
  induction as generalizing sub with
  | nil => rw [List.any_nil, Bool.or_false]; rfl
  | cons a as ih =>
    unfold handleAll
    have hl : (sub.onMessage config translate handles a.now a.message).2.limits = sub.limits := by
      rw [toMqtt_onMessage, Mqtt.limits_onMessageCount]
    rw [ih _ (by rw [hl, h]), hl, toMqtt_onMessage, Mqtt.limitsReached_onMessageCount,
      expired_of_no_record_limit h, List.any_cons, Bool.or_assoc]

/-- The elapsed time is the time since the epoch. -/
theorem expiredTime_opened {request : SubscriptionAdditionalConfig}
    (hT : 0 < request.limitTimeSeconds.toInt) (id : Nat) (systemHandle : HandlePtr)
    (pathList : List String) (active : Bool) (now : Int) :
    (opened id systemHandle pathList request active).limits.expiredTime now = true ↔
      request.limitTimeSeconds.toInt ≤ now := by
  have hT' := toUInt64_of_nonneg (Int.le_of_lt hT)
  show AgentSubscriptionLimits.expiredTime (.new _ (toUInt64 request.limitTimeSeconds)) now =
    true ↔ _
  unfold AgentSubscriptionLimits.expiredTime AgentSubscriptionLimits.new
  simp only [Int.sub_zero, hT']
  rw [if_neg (by omega)]
  by_cases h : now < request.limitTimeSeconds.toInt
  · rw [if_pos h]
    simp only [Bool.false_eq_true, false_iff]
    omega
  · rw [if_neg h]
    simp only [true_iff]
    omega

/-- **Time limit.** A subscription with a limit of `T` seconds and no record limit is
    enabled at clock reading `e`. No message handled before `e + T` sets the flag if and
    only if the first message handled at clock reading `T` or later is handled at `e + T`
    or later. -/
theorem timeLimit_iff_clock (id : Nat) (systemHandle : HandlePtr) (pathList : List String)
    (active : Bool) (request : SubscriptionAdditionalConfig) (hN : request.limitRecords = 0)
    (hT : 0 < request.limitTimeSeconds.toInt) (e : Int) (as : List Arrival) :
    (∀ pre a post, as = pre ++ a :: post → a.now < e + request.limitTimeSeconds.toInt →
      (handleAll config translate handles
        (opened id systemHandle pathList request active) (pre ++ [a])).limitsReached =
      (handleAll config translate handles
        (opened id systemHandle pathList request active) pre).limitsReached) ↔
    ∀ pre a post, as = pre ++ a :: post → request.limitTimeSeconds.toInt ≤ a.now →
      (∀ b ∈ pre, b.now < request.limitTimeSeconds.toInt) →
      e + request.limitTimeSeconds.toInt ≤ a.now := by
  have hrec : (opened id systemHandle pathList request active).limits.records = 0 := by
    show toUInt64 request.limitRecords = 0
    rw [hN]
    rfl
  have hexp := expiredTime_opened hT id systemHandle pathList active
  have hreached : ∀ as, (handleAll config translate handles
      (opened id systemHandle pathList request active) as).limitsReached = true ↔
      ∃ b ∈ as, request.limitTimeSeconds.toInt ≤ b.now := by
    intro as
    rw [limitsReached_handleAll config translate handles _ hrec]
    show (false || _) = true ↔ _
    rw [Bool.false_or, List.any_eq_true]
    exact exists_congr fun b => and_congr_right fun _ => hexp b.now
  constructor
  · intro h pre a post has hT hpre
    by_contra hlt
    have heq := h pre a post has (by omega)
    have hafter : (handleAll config translate handles
        (opened id systemHandle pathList request active) (pre ++ [a])).limitsReached = true :=
      (hreached _).mpr ⟨a, by simp, hT⟩
    rw [heq] at hafter
    obtain ⟨b, hb, hTb⟩ := (hreached pre).mp hafter
    have := hpre b hb
    omega
  · intro h pre a post has hlt
    rw [Bool.eq_iff_iff, hreached, hreached]
    constructor
    · intro hexists
      obtain ⟨b, hb, hTb⟩ := hexists
      by_contra hn
      push Not at hn
      have hba : b = a := by
        obtain hb | hb := List.mem_append.mp hb
        · have := hn b hb
          omega
        · exact List.mem_singleton.mp hb
      subst hba
      have := h pre b post has hTb hn
      omega
    · intro hexists
      obtain ⟨b, hb, hTb⟩ := hexists
      exact ⟨b, List.mem_append_left _ hb, hTb⟩

/-- On a device whose clock was set to the epoch just before the stream was opened, the
    limit works. -/
theorem timeLimit_at_epoch :
    (handleAll {} (fun _ => .record) [] (opened 1 0 [] { limitTimeSeconds := 10 } false)
      ([] ++ [⟨3, ⟨"/1000", []⟩⟩])).limitsReached =
    (handleAll {} (fun _ => .record) [] (opened 1 0 [] { limitTimeSeconds := 10 } false)
      []).limitsReached := by
  refine (timeLimit_iff_clock {} (fun _ => .record) [] 1 0 [] false { limitTimeSeconds := 10 } rfl
    (by decide) 0 [⟨3, ⟨"/1000", []⟩⟩]).mpr ?_ [] ⟨3, ⟨"/1000", []⟩⟩ [] rfl (by decide)
  intro pre a post has hT _
  have ha : a ∈ [(⟨3, ⟨"/1000", []⟩⟩ : Arrival)] := by
    rw [has]
    simp
  obtain rfl := List.mem_singleton.mp ha
  exact absurd hT (by decide)

/-- A ten-second subscription is enabled at clock reading 1470000000, and the first message
    comes at once. -/
theorem timeLimit_first_message :
    ¬ ∀ pre a post, [(⟨1470000000, ⟨"/1000", []⟩⟩ : Arrival)] = pre ++ a :: post →
      a.now < 1470000000 + (10 : Int32).toInt →
      (handleAll {} (fun _ => .record) [] (opened 1 0 [] { limitTimeSeconds := 10 } false)
        (pre ++ [a])).limitsReached =
      (handleAll {} (fun _ => .record) [] (opened 1 0 [] { limitTimeSeconds := 10 } false)
        pre).limitsReached := by
  intro h
  have := h [] ⟨1470000000, ⟨"/1000", []⟩⟩ [] rfl (by decide)
  exact absurd this (by decide +kernel)

end AgentSubscription

end TelemetryAgent
