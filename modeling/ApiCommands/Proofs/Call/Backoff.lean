/-
Calls that are asked for patience and not told for how long.

# The wait

A reply that names no time to come back leaves the wait to the number of the
attempt (`afterReply_of_isSilent`). The wait is a power of two up to half a minute.
It is looked up among the powers that are numbers, so it is there for the first
1024 attempts and for no others, although it has stopped growing long before
(`backoff_eq`, `backoff_eq_error`).

# The run

Where all replies are of this kind, a call uses up its attempts if there are no
more of them than waits, the last attempt being without one, and the waits can be
made (`endsAt_silent_iff`). Otherwise it ends after 1025 attempts with no reply at
all, as long as it comes that far (`converse_of_overflow`). Both inductions are on the retries that
are left, and `made` counts the attempts, as in `converse`.
-/
import ApiCommands.Proofs.Call.Attempts
import ApiCommands.Proofs.Number.PowerOfTwo
import ApiCommands.Proofs.Text.Blank

namespace ApiCommands

/-- The reply does not say when to come back: it has no such header, or one that is blank. -/
def Reply.IsSilent (r : Reply) : Prop :=
  ∀ header, r.header? "retry-after" = some header → Text.isBlank header.toList = true

namespace RetryDelay

-- ====================================================== the wait

/-- Nothing is asked for by a blank header. -/
theorem requested?_of_isBlank {header : List Char} (now : Moment)
    (h : Text.isBlank header = true) : requested? now header = .ok none := by
  have hnumber : Numeral.readNumber? header = none := by
    unfold Numeral.readNumber?
    rw [Text.trim_of_isBlank h]
    decide
  have hdate : MailDate.read header = .unreadable := by
    unfold MailDate.read
    rw [Text.runsWithout_of_isBlank h]
    rfl
  unfold requested?
  rw [hnumber, hdate]

/-- After a silent reply the wait is a matter of the attempt. -/
theorem afterReply_of_isSilent {r : Reply} (h : r.IsSilent) (now : Moment) (attempt : Int) :
    afterReply now r attempt = backoff attempt := by
  unfold afterReply
  cases hheader : r.header? "retry-after" with
  | none => rfl
  | some header =>
      show (requested? now header.toList >>= fun asked => _) = _
      rw [requested?_of_isBlank now (h header hheader)]
      rfl

/-- The wait of the first 1024 attempts: a power of two, and half a minute at most. -/
theorem backoff_eq (attempt : Int) (hfirst : 1 ≤ attempt) (hlast : attempt ≤ 1024) :
    ∃ wait, backoff attempt = .ok wait
      ∧ wait.toInt? = some (min 30 (2 ^ (attempt - 1).toNat)) := by
  obtain ⟨k, hk⟩ : ∃ k : Nat, attempt - 1 = k := Int.eq_ofNat_of_zero_le (by omega)
  obtain ⟨exponent, hpower, hleast, hvalue⟩ :=
    Binary64.exists_powerOfTwo? (k := k) (by omega)
  have hlongest : longest = .finite false 8444249301319680 (-48) := by decide
  have hthirty : longest.toInt? = some 30 := by
    rw [hlongest]
    decide
  have hlt : (Binary64.finite false (2 ^ 52) exponent).lt longest = true
      ↔ (2 : Int) ^ k < 30 := by
    rw [hlongest] at hthirty ⊢
    exact Binary64.lt_iff_of_toInt? hleast (by decide) hvalue hthirty
  unfold backoff
  rw [hk, hpower, Int.toNat_natCast]
  dsimp only
  by_cases hshort : (2 : Int) ^ k < 30
  · rw [if_pos (hlt.mpr hshort), min_eq_right (le_of_lt hshort)]
    exact ⟨_, rfl, hvalue⟩
  · rw [if_neg (fun h => hshort (hlt.mp h)), min_eq_left (not_lt.mp hshort)]
    exact ⟨_, rfl, hthirty⟩

/-- A machine can make every wait that doubles. -/
theorem sleep_of_backoff {attempt : Int} {wait : Binary64} (h : backoff attempt = .ok wait) :
    sleep wait = .ok () := by
  have hlongest : longest.lt endless = true := by decide +kernel
  unfold backoff at h
  cases hpower : Binary64.powerOfTwo? (attempt - 1) with
  | none =>
      rw [hpower] at h
      cases h
  | some power =>
      rw [hpower] at h
      refine if_pos ?_
      rw [← Except.ok.inj h]
      split
      · next hshort => exact Binary64.lt_trans hshort hlongest
      · exact hlongest

/-- No later attempt has a wait. -/
theorem backoff_eq_error {attempt : Int} (h : 1024 < attempt) :
    backoff attempt = .error .delayOverflow := by
  unfold backoff Binary64.powerOfTwo?
  rw [if_pos (by omega)]

end RetryDelay

-- ====================================================== silent exchanges

namespace Network

/-- The exchange is a reply that asks for patience and does not say for how long. -/
def IsSilentAt (net : Network) (order : Order) (i : Nat) : Prop :=
  ∃ r, net.outcome order i = .reply r ∧ r.status = Client.tooManyRequests ∧ r.IsSilent

variable {net : Network} {order : Order} {made retries i : Nat}

theorem IsSilentAt.asksPatience (h : net.IsSilentAt order i) :
    (net.outcome order i).asksPatience = true := by
  obtain ⟨r, hr, hstatus, -⟩ := h
  rw [hr]
  exact Exchange.asksPatience_reply_iff.mpr hstatus

/-- As long as all exchanges ask for patience, so many come before the last one as there are
retries. -/
theorem patience_of_silent (h : ∀ j, made ≤ j → j < made + retries → net.IsSilentAt order j) :
    net.patience order made retries = retries := by
  induction retries generalizing made with
  | zero => rfl
  | succ retries ih =>
      have hfirst := (h made (Nat.le_refl _) (by omega)).asksPatience
      rw [patience, if_pos hfirst, ih fun j hj hlast => h j (by omega) (by omega)]

/-- A silent exchange can be waited on if the wait can be made. -/
theorem IsSilentAt.waitable_iff (h : net.IsSilentAt order i) :
    net.Waitable order i ↔ net.TakesWait order i := by
  obtain ⟨r, hr, -, hsilent⟩ := h
  refine and_iff_right fun other hother hbeyond => ?_
  rw [hr] at hother
  obtain rfl := Exchange.reply.inj hother
  obtain ⟨header, hheader, -, hdate⟩ := hbeyond
  unfold MailDate.read at hdate
  rw [Text.runsWithout_of_isBlank (hsilent header hheader)] at hdate
  cases hdate

/-- The delay after a silent exchange is a matter of the attempt. -/
theorem IsSilentAt.delay?_eq (h : net.IsSilentAt order i) :
    net.delay? order i = (RetryDelay.backoff (i + 1)).toOption := by
  obtain ⟨r, hr, -, hsilent⟩ := h
  unfold delay?
  rw [hr]
  exact congrArg Except.toOption (RetryDelay.afterReply_of_isSilent hsilent _ _)

/-- So it is there after the first 1024 exchanges. -/
theorem IsSilentAt.exists_delay (h : net.IsSilentAt order i) (hi : i < 1024) :
    ∃ wait, net.delay? order i = some wait ∧ wait.toInt? = some (min 30 (2 ^ i)) := by
  obtain ⟨wait, hwait, hvalue⟩ :=
    RetryDelay.backoff_eq ((i : Int) + 1) (by omega) (by omega)
  rw [Int.add_sub_cancel, Int.toNat_natCast] at hvalue
  refine ⟨wait, ?_, hvalue⟩
  rw [h.delay?_eq, hwait]
  rfl

/-- A machine can make the wait after a silent exchange. -/
theorem IsSilentAt.takesWait (h : net.IsSilentAt order i) (hsleep : net.sleep = RetryDelay.sleep) :
    net.TakesWait order i := by
  intro wait hwait _
  rw [h.delay?_eq] at hwait
  rw [hsleep]
  cases hbackoff : RetryDelay.backoff ((i : Int) + 1) with
  | error fault =>
      rw [hbackoff] at hwait
      cases hwait
  | ok told =>
      rw [hbackoff] at hwait
      obtain rfl := Option.some.inj hwait
      exact RetryDelay.sleep_of_backoff hbackoff

/-- The delays after silent exchanges are all waited for, and double up to half a minute. -/
theorem waits_of_silent (h : ∀ j < retries, net.IsSilentAt order j) (hretries : retries ≤ 1024) :
    (net.waits order 0 retries).map Binary64.toInt?
      = (List.range retries).map fun j => some (min 30 (2 ^ j)) := by
  induction retries with
  | zero => rfl
  | succ retries ih =>
      obtain ⟨wait, hwait, hvalue⟩ := (h retries (Nat.lt_succ_self _)).exists_delay (by omega)
      have hpositive : wait.isPositive = true :=
        Binary64.isPositive_of_toInt? hvalue (lt_min (by decide) (pow_pos (by decide) _))
      have hwaits : net.waits order 0 (retries + 1) = net.waits order 0 retries ++ [wait] := by
        unfold waits delays
        rw [List.range'_concat, List.filterMap_append, List.filter_append]
        simp [hwait, hpositive]
      rw [hwaits, List.map_append, ih (fun j hj => h j (by omega)) (by omega), List.range_succ,
        List.map_append]
      simp [hvalue]

end Network

-- ====================================================== the run

namespace Client

variable {net : Network} {order : Order}

/-- After a silent reply of the first 1024 attempts the wait is made if it can be. -/
theorem exists_waitAfter_of_isSilentAt {made : Nat} {r : Reply}
    (hreply : net.outcome order made = .reply r) (h : net.IsSilentAt order made)
    (hmade : made + 1 ≤ 1024) :
    (∃ wait, waitAfter net made r = .ok wait) ↔ net.TakesWait order made := by
  rw [exists_waitAfter_iff hreply hmade, h.waitable_iff]

/-- Silent replies without end: the order is given 1025 times at most, and if all waits can be made,
that often and without a reply in the end. -/
theorem converse_of_overflow (net : Network) (order : Order) {made retries : Nat}
    (hmade : made ≤ 1024) (hretries : 1024 < made + retries)
    (h : ∀ i, made ≤ i → i ≤ 1024 → net.IsSilentAt order i) :
    (converse net order made retries).orders.length ≤ 1025 - made
      ∧ ((∀ i, made ≤ i → i < 1024 → net.TakesWait order i) →
          (converse net order made retries).orders = List.replicate (1025 - made) order
          ∧ (converse net order made retries).outcome = .error (.fault .delayOverflow)) := by
  induction retries generalizing made with
  | zero => omega
  | succ retries ih =>
      have hfirst := h made (Nat.le_refl _) hmade
      obtain ⟨r, hr, hstatus, hsilent⟩ := h made (Nat.le_refl _) hmade
      rw [converse, hr]
      dsimp only
      rw [if_pos hstatus]
      by_cases hlast : made = 1024
      · -- no wait can be told any more
        have hwait : waitAfter net made r = .error .delayOverflow := by
          unfold waitAfter
          rw [RetryDelay.afterReply_of_isSilent hsilent, RetryDelay.backoff_eq_error (by omega)]
          rfl
        rw [hwait, hlast]
        exact ⟨Nat.le_refl 1, fun _ => ⟨rfl, rfl⟩⟩
      · have hexists := exists_waitAfter_of_isSilentAt hr hfirst (by omega)
        cases hwait : waitAfter net made r with
        | error fault =>
            refine ⟨?_, fun htakes => ?_⟩
            · show 1 ≤ 1025 - made
              omega
            · obtain ⟨wait, hmadeWait⟩ := hexists.mpr (htakes made (Nat.le_refl _) (by omega))
              rw [hwait] at hmadeWait
              cases hmadeWait
        | ok wait =>
            dsimp only
            have hnext : made + 1 ≤ 1024 := by omega
            obtain ⟨hcount, hall⟩ := ih hnext (by omega) fun i hi hlast => h i (by omega) hlast
            have hsplit : 1025 - made = (1025 - (made + 1)) + 1 := by omega
            refine ⟨?_, fun htakes => ?_⟩
            · rw [hsplit]
              exact Nat.succ_le_succ hcount
            · obtain ⟨horders, houtcome⟩ := hall fun i hi hlast => htakes i (by omega) hlast
              rw [hsplit]
              exact ⟨congrArg (order :: ·) horders, houtcome⟩

/-- Silent replies to all attempts: the attempts are used up and the last reply is answered, exactly
if there are not too many of them for the waits, the waits can be made and the last reply has an
envelope. -/
theorem endsAt_silent_iff {retries : Nat} (h : ∀ i < retries + 1, net.IsSilentAt order i) :
    (converse net order 0 retries).EndsAt net order 0 retries
      ↔ retries ≤ 1024 ∧ (∀ i < retries, net.TakesWait order i)
        ∧ net.Conclusive order retries := by
  by_cases hretries : retries ≤ 1024
  · have hpatience : net.patience order 0 retries = retries :=
      Network.patience_of_silent fun j _ hj => h j (by omega)
    have hlimit : 0 + retries ≤ 1024 := by omega
    have hends := converse_endsAt_iff net order hlimit
    rw [hpatience, Nat.zero_add] at hends
    rw [hends, and_iff_right hretries, and_congr_left_iff]
    intro _
    simp only [List.mem_range'_1, Nat.zero_add, Nat.zero_le, true_and]
    exact forall₂_congr fun i hi => (h i (by omega)).waitable_iff
  · constructor
    · intro hends
      have hlong : 1024 < 0 + retries := by omega
      obtain ⟨hcount, -⟩ := converse_of_overflow net order (Nat.zero_le _) hlong
        fun i _ hi => h i (by omega)
      rw [hends.orders, List.length_replicate] at hcount
      omega
    · intro hall
      exact absurd hall.1 hretries

/-- What comes of replies that ask for patience and do not say for how long. The wait after a reply
of the first 1024 attempts is a power of two, and half a minute at most; no later one can be told.
So a call that gets nothing else uses up its attempts and answers the last reply exactly if there
are at most 1025 of them, the waits can be made and the last reply has an envelope. Its waits double
up to half a minute. With more attempts than that it ends after 1025 orders with no reply, although
all waits up to then are made. -/
theorem silent_call_uses_attempts_iff {check : List (String × String) → Except Fault Unit}
    {baseUrl : String} {token : Option String} {maxAttempts : Int} {c : Client}
    (hclient : create check baseUrl token maxAttempts = .ok c) {asked : Call}
    (horder : c.order asked = .ok order) (net : Network)
    (hsilent : ∀ i : Nat, (i : Int) < max 1 maxAttempts → net.IsSilentAt order i) :
    (∀ (now : Moment) (r : Reply) (attempt : Int), 1 ≤ attempt → r.IsSilent →
        (attempt ≤ 1024 → ∃ wait, RetryDelay.afterReply now r attempt = .ok wait
          ∧ wait.toInt? = some (min 30 (2 ^ (attempt - 1).toNat)))
        ∧ (1024 < attempt → RetryDelay.afterReply now r attempt = .error .delayOverflow))
      ∧ ∃ retries : Nat, (retries : Int) + 1 = max 1 maxAttempts
        ∧ ((c.call net asked).EndsAt net order 0 retries
            ↔ retries ≤ 1024 ∧ (∀ i < retries, net.TakesWait order i)
              ∧ net.Conclusive order retries)
        ∧ (retries ≤ 1024 →
            (net.waits order 0 retries).map Binary64.toInt?
              = (List.range retries).map fun j => some (min 30 (2 ^ j)))
        ∧ (1024 < retries → (∀ i < 1024, net.TakesWait order i) →
            (c.call net asked).orders = List.replicate 1025 order
            ∧ (c.call net asked).outcome = .error (.fault .delayOverflow)) := by
  have hattempts := maxAttempts_of_create hclient
  obtain ⟨retries, hretries⟩ : ∃ retries, c.maxAttempts = retries + 1 :=
    Nat.exists_eq_add_one.mpr c.maxAttempts_pos
  have hall : ∀ i < retries + 1, net.IsSilentAt order i := fun i hi => hsilent i (by omega)
  have hcall := call_eq_converse horder net
  rw [hretries, Nat.add_sub_cancel] at hcall
  refine ⟨fun now r attempt hfirst hr => ⟨fun hlast => ?_, fun hlate => ?_⟩, retries, by omega,
    ?_, Network.waits_of_silent fun j hj => hall j (by omega), fun hlong htakes => ?_⟩
  · rw [RetryDelay.afterReply_of_isSilent hr]
    exact RetryDelay.backoff_eq attempt hfirst hlast
  · rw [RetryDelay.afterReply_of_isSilent hr]
    exact RetryDelay.backoff_eq_error hlate
  · rw [hcall]
    exact endsAt_silent_iff hall
  · rw [hcall]
    have hpast : 1024 < 0 + retries := by omega
    exact (converse_of_overflow net order (Nat.zero_le _) hpast
      fun i _ hi => hall i (by omega)).2 fun i _ hi => htakes i hi

end Client

-- ====================================================== a busy server

namespace BusyServer

/-- A client that makes one attempt more than there are waits for. -/
def client : Client := ⟨"https://api.test", Client.headersOf none, 1026, by decide⟩

/-- A call that asks for a list. -/
def asked : Call := ⟨"GET", "/tasks", [], .null, none⟩

/-- Its order. -/
def order : Order := ⟨"GET", "https://api.test/tasks", [], .empty⟩

/-- A server that always asks for patience, and a machine to wait for it. -/
def network : Network where
  outcome _ _ := .reply ⟨429, fun _ => none, .ok ""⟩
  clock _ := 0
  sleep := RetryDelay.sleep

/-- It never says for how long. -/
theorem isSilentAt (i : Nat) : network.IsSilentAt order i :=
  ⟨_, rfl, rfl, fun header hheader => by cases hheader⟩

end BusyServer

/-- A client that makes 1026 attempts at a busy server gives up after 1025 of them. -/
theorem Client.busyServer_ends_early :
    Client.create Request.checkHeaders "https://api.test" none 1026 = .ok BusyServer.client
      ∧ BusyServer.client.order BusyServer.asked = .ok BusyServer.order
      ∧ (∀ i : Nat, (i : Int) < max 1 1026 → BusyServer.network.IsSilentAt BusyServer.order i)
      ∧ (BusyServer.client.call BusyServer.network BusyServer.asked).orders
          = List.replicate 1025 BusyServer.order
      ∧ (BusyServer.client.call BusyServer.network BusyServer.asked).outcome
          = .error (.fault .delayOverflow) := by
  have hclient : Client.create Request.checkHeaders "https://api.test" none 1026
      = .ok BusyServer.client := by rfl
  have horder : BusyServer.client.order BusyServer.asked = .ok BusyServer.order := by rfl
  have hsilent : ∀ i : Nat, (i : Int) < max 1 1026 →
      BusyServer.network.IsSilentAt BusyServer.order i := fun i _ => BusyServer.isSilentAt i
  obtain ⟨-, retries, hretries, -, -, hoverflow⟩ :=
    silent_call_uses_attempts_iff hclient horder BusyServer.network hsilent
  have hlong : 1024 < retries := by omega
  exact ⟨hclient, horder, hsilent,
    hoverflow hlong fun i _ => (BusyServer.isSilentAt i).takesWait rfl⟩

end ApiCommands
