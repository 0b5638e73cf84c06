/-
How often a call gives its order, and what comes of it.

# Where a call ends

A call is over with the first exchange that does not ask for patience, and with
the last attempt at the latest. Given that often, always the same order, it
waits after each reply but the last as long as the reply asks for and answers
what the last exchange says (`Conversation.EndsAt`).

It comes that far unless a reply cannot be dealt with. A reply that is waited on
must not name a date beyond all calendars, and the wait it asks for must be one that
can be made: up to 1024 attempts, such a date is the only delay nobody can tell
(`RetryDelay.exists_afterReply_iff`). A reply that ends the call needs an
envelope. The induction behind `converse_endsAt_iff` is on the retries that are
left; `made` counts the attempts and goes up as they go down. A call that ends
earlier has given its order and waited as one that goes on
(`converse_isRepeated`).

# Counting attempts

The attempts may as well be told from a list of their numbers, the last one by
its number (`Client.attempts`). A list that ends before an attempt has ended the
call leads to no conversation. This does not happen (`attempts_eq_some`): the
number of the attempt and the retries left always add up to the most there may
be, so the end of the list is the last attempt.
-/
import ApiCommands.Call.Client
import ApiCommands.Call.Request
import ApiCommands.Proofs.Outcome.Result

namespace ApiCommands

-- ====================================================== what exchanges ask for

/-- The exchange is a reply that asks for patience. -/
def Exchange.asksPatience : Exchange → Bool
  | .reply r => r.status == Client.tooManyRequests
  | .failure .. => false
  | .refusal _ => false

theorem Exchange.asksPatience_reply_iff {r : Reply} :
    (Exchange.reply r).asksPatience = true ↔ r.status = Client.tooManyRequests := beq_iff_eq

/-- The outcome says what the exchange says: a reply gives its envelope, anything else an error. -/
def Exchange.Answers (url : String) (outcome : Except Error Envelope) : Exchange → Prop
  | .reply r => ∃ e, Envelope.ofReply r = .ok e ∧ outcome = .ok e
  | .failure timedOut reason => outcome = .error (.connection ⟨url, timedOut, reason⟩)
  | .refusal cause => outcome = .error (.fault cause)

/-- The reply names a date as the time to come back, and one with a number too large to count
with. -/
def Reply.AsksBeyond (r : Reply) : Prop :=
  ∃ header, r.header? "retry-after" = some header
    ∧ Numeral.readNumber? header.toList = none ∧ MailDate.read header.toList = .beyond

-- ====================================================== delays

namespace RetryDelay

/-- A wait that doubles can be told for 1024 attempts. -/
theorem exists_backoff {attempt : Int} (h : attempt ≤ 1024) :
    ∃ wait, backoff attempt = .ok wait := by
  have hpower : ∃ x, Binary64.powerOfTwo? (attempt - 1) = some x := by
    unfold Binary64.powerOfTwo?
    rw [if_neg (by omega)]
    split
    · exact ⟨_, rfl⟩
    · split
      · exact ⟨_, rfl⟩
      · exact ⟨_, rfl⟩
  obtain ⟨x, hx⟩ := hpower
  unfold backoff
  rw [hx]
  exact ⟨_, rfl⟩

/-- Within 1024 attempts a delay can be told, unless the reply names a date beyond all calendars. -/
theorem exists_afterReply_iff (now : Moment) (r : Reply) {attempt : Int} (h : attempt ≤ 1024) :
    (∃ wait, afterReply now r attempt = .ok wait) ↔ ¬r.AsksBeyond := by
  obtain ⟨fallback, hfallback⟩ := exists_backoff h
  unfold afterReply Reply.AsksBeyond
  cases hheader : r.header? "retry-after" with
  | none =>
      simp only [pure_bind]
      rw [hfallback]
      simp
  | some header =>
      simp only [Option.some.injEq, exists_eq_left', not_and]
      unfold requested?
      cases hnumber : Numeral.readNumber? header.toList with
      | some x =>
          exact ⟨fun _ hnone => (by cases hnone), fun _ => ⟨_, rfl⟩⟩
      | none =>
          cases hdate : MailDate.read header.toList with
          | unreadable =>
              exact ⟨fun _ _ hbeyond => (by cases hbeyond), fun _ => ⟨fallback, hfallback⟩⟩
          | moment seconds => exact ⟨fun _ _ hbeyond => (by cases hbeyond), fun _ => ⟨_, rfl⟩⟩
          | beyond =>
              constructor
              · rintro ⟨wait, hwait⟩
                cases hwait
              · intro hnot
                exact absurd rfl (hnot rfl)

end RetryDelay

namespace Network

variable (net : Network) (order : Order)

/-- The delay after an exchange, which is attempt `i + 1`, if it is a reply with a delay. -/
def delay? (i : Nat) : Option Binary64 :=
  match net.outcome order i with
  | .reply r => (RetryDelay.afterReply (net.clock i) r (i + 1)).toOption
  | _ => none

/-- The delays after so many exchanges, from a first one on. -/
def delays (first count : Nat) : List Binary64 :=
  (List.range' first count).filterMap (net.delay? order)

/-- The waits after so many exchanges: the delays that take time. -/
def waits (first count : Nat) : List Binary64 :=
  (net.delays order first count).filter Binary64.isPositive

/-- If there is a wait after the exchange, it can be made. -/
def TakesWait (i : Nat) : Prop :=
  ∀ wait, net.delay? order i = some wait → wait.isPositive = true → net.sleep wait = .ok ()

/-- If the exchange is a reply, it names no date beyond all calendars, and the wait it asks for can
be made. -/
def Waitable (i : Nat) : Prop :=
  (∀ r, net.outcome order i = .reply r → ¬r.AsksBeyond) ∧ net.TakesWait order i

/-- If the exchange is a reply, it has an envelope. -/
def Conclusive (i : Nat) : Prop :=
  ∀ r, net.outcome order i = .reply r → ∃ e, Envelope.ofReply r = .ok e

/-- How many of the exchanges from `made` on come before the last one, with so many retries left. -/
def patience (made : Nat) : Nat → Nat
  | 0 => 0
  | retries + 1 =>
    if (net.outcome order made).asksPatience then patience (made + 1) retries + 1 else 0

variable {net : Network} {order : Order}

/-- There are no more of them than retries. -/
theorem patience_le (made retries : Nat) : net.patience order made retries ≤ retries := by
  induction retries generalizing made with
  | zero => exact Nat.le_refl 0
  | succ retries ih =>
      rw [patience]
      split
      · exact Nat.succ_le_succ (ih (made + 1))
      · exact Nat.zero_le _

/-- They all ask for patience. -/
theorem asksPatience_of_mem_range' {made retries i : Nat}
    (h : i ∈ List.range' made (net.patience order made retries)) :
    (net.outcome order i).asksPatience = true := by
  induction retries generalizing made with
  | zero => cases h
  | succ retries ih =>
      rw [patience] at h
      split at h
      · next hpatience =>
        rw [List.range'_succ] at h
        rcases List.mem_cons.mp h with rfl | hrest
        · exact hpatience
        · exact ih hrest
      · cases h

/-- The exchange behind them is the last attempt, or does not ask for patience. -/
theorem patience_spec (made retries : Nat) :
    net.patience order made retries = retries
      ∨ (net.outcome order (made + net.patience order made retries)).asksPatience = false := by
  induction retries generalizing made with
  | zero => exact Or.inl rfl
  | succ retries ih =>
      rw [patience]
      split
      · rw [← Nat.add_assoc, Nat.add_right_comm]
        exact (ih (made + 1)).imp (congrArg (· + 1)) id
      · next hpatience => exact Or.inr (Bool.eq_false_iff.mpr hpatience)

/-- The waits from an exchange with a delay on. -/
theorem waits_succ {first count : Nat} {wait : Binary64}
    (h : net.delay? order first = some wait) :
    net.waits order first (count + 1)
      = [wait].filter Binary64.isPositive ++ net.waits order (first + 1) count := by
  unfold waits delays
  rw [List.range'_succ, List.filterMap_cons, h, ← List.filter_append, List.singleton_append]

end Network

namespace Conversation

/-- The conversation ends at the exchange `first + count`: before it the order was given `count`
times since `first`, with a wait after each time for which there is one, and the outcome is what
this exchange says. -/
structure EndsAt (net : Network) (order : Order) (first count : Nat) (c : Conversation) :
    Prop where
  orders : c.orders = List.replicate (count + 1) order
  waits : c.waits = net.waits order first count
  outcome : (net.outcome order (first + count)).Answers order.url c.outcome

/-- The conversation comes no further than the exchange `first + count`: the order is given some
times, with a wait after each time but the last for which there is one. -/
def IsRepeated (net : Network) (order : Order) (first count : Nat) (c : Conversation) : Prop :=
  ∃ before ≤ count, c.orders = List.replicate (before + 1) order
    ∧ c.waits = net.waits order first before

variable {net : Network} {order : Order} {rest : Conversation} {first count : Nat}
  {wait : Binary64}

theorem waits_after (rest : Conversation) (order : Order) (wait : Binary64) :
    (rest.after order wait).waits = [wait].filter Binary64.isPositive ++ rest.waits := by
  unfold after
  by_cases hpositive : wait.isPositive = true <;> simp [hpositive]

/-- After a first order and a wait that is told, the conversation ends where the rest of it ends. -/
theorem after_endsAt_iff (hdelay : net.delay? order first = some wait) :
    (rest.after order wait).EndsAt net order first (count + 1)
      ↔ rest.EndsAt net order (first + 1) count := by
  have hlast : first + (count + 1) = first + 1 + count := by omega
  constructor
  · intro hends
    have hequal := hends.waits
    rw [waits_after, Network.waits_succ hdelay] at hequal
    refine ⟨List.tail_eq_of_cons_eq hends.orders, List.append_cancel_left hequal, ?_⟩
    rw [← hlast]
    exact hends.outcome
  · intro hends
    refine ⟨congrArg (order :: ·) hends.orders, ?_, ?_⟩
    · rw [waits_after, Network.waits_succ hdelay, hends.waits]
    · rw [hlast]
      exact hends.outcome

/-- One order more, and the wait after it. -/
theorem IsRepeated.after (h : rest.IsRepeated net order (first + 1) count)
    (hdelay : net.delay? order first = some wait) :
    (rest.after order wait).IsRepeated net order first (count + 1) := by
  obtain ⟨before, hle, horders, hwaits⟩ := h
  refine ⟨before + 1, Nat.succ_le_succ hle, congrArg (order :: ·) horders, ?_⟩
  rw [waits_after, Network.waits_succ hdelay, hwaits]

/-- One order without a wait. -/
theorem isRepeated_single (outcome : Except Error Envelope) :
    IsRepeated net order first count ⟨[order], [], outcome⟩ :=
  ⟨0, Nat.zero_le _, rfl, rfl⟩

end Conversation

namespace Client

variable {net : Network} {order : Order}

-- ====================================================== the last exchange

/-- One order is answered as the exchange says exactly if it is conclusive. -/
theorem single_endsAt_iff (i : Nat) :
    Conversation.EndsAt net order i 0 ⟨[order], [], answer order.url (net.outcome order i)⟩
      ↔ net.Conclusive order i := by
  unfold Network.Conclusive
  constructor
  · intro hends r hr
    have hanswers := hends.outcome
    rw [Nat.add_zero, hr] at hanswers
    obtain ⟨e, he, -⟩ := hanswers
    exact ⟨e, he⟩
  · intro hconclusive
    refine ⟨rfl, rfl, ?_⟩
    rw [Nat.add_zero]
    cases hexchange : net.outcome order i with
    | reply r =>
        obtain ⟨e, he⟩ := hconclusive r hexchange
        refine ⟨e, he, ?_⟩
        show conclude r = .ok e
        unfold conclude
        rw [he]
        rfl
    | failure timedOut reason => rfl
    | refusal cause => rfl

-- ====================================================== one attempt after the other

/-- A wait is made if it can be told and, where it takes time, is taken. -/
theorem waitAfter_eq_ok_iff {made : Nat} {r : Reply} {wait : Binary64} :
    waitAfter net made r = .ok wait
      ↔ RetryDelay.afterReply (net.clock made) r (made + 1) = .ok wait
        ∧ (wait.isPositive = true → net.sleep wait = .ok ()) := by
  unfold waitAfter
  rw [Except.bind_eq_ok_iff]
  constructor
  · rintro ⟨told, htold, h⟩
    by_cases hpositive : told.isPositive = true
    · rw [if_pos hpositive] at h
      obtain ⟨⟨⟩, hslept, h⟩ := Except.bind_eq_ok_iff.mp h
      obtain rfl := Except.ok.inj h
      exact ⟨htold, fun _ => hslept⟩
    · rw [if_neg hpositive] at h
      obtain rfl := Except.ok.inj h
      exact ⟨htold, fun h => absurd h hpositive⟩
  · rintro ⟨htold, hslept⟩
    refine ⟨wait, htold, ?_⟩
    by_cases hpositive : wait.isPositive = true
    · rw [if_pos hpositive, hslept hpositive]
      rfl
    · rw [if_neg hpositive]
      rfl

/-- A wait that is made is the delay after its exchange. -/
theorem delay?_of_waitAfter {made : Nat} {r : Reply} {wait : Binary64}
    (hreply : net.outcome order made = .reply r) (h : waitAfter net made r = .ok wait) :
    net.delay? order made = some wait := by
  unfold Network.delay?
  rw [hreply]
  dsimp only
  rw [(waitAfter_eq_ok_iff.mp h).1]
  rfl

/-- Within 1024 attempts the wait after a reply is made exactly if the reply can be waited on. -/
theorem exists_waitAfter_iff {made : Nat} {r : Reply} (hreply : net.outcome order made = .reply r)
    (h : made + 1 ≤ 1024) :
    (∃ wait, waitAfter net made r = .ok wait) ↔ net.Waitable order made := by
  have hattempt : ((made : Int) + 1) ≤ 1024 := by omega
  have hdelay : net.delay? order made
      = (RetryDelay.afterReply (net.clock made) r (made + 1)).toOption := by
    unfold Network.delay?
    rw [hreply]
  unfold Network.Waitable Network.TakesWait
  simp only [waitAfter_eq_ok_iff, hreply, Exchange.reply.injEq, forall_eq', hdelay,
    ← RetryDelay.exists_afterReply_iff (net.clock made) r hattempt]
  constructor
  · rintro ⟨wait, htold, hslept⟩
    refine ⟨⟨wait, htold⟩, fun other hother => ?_⟩
    rw [htold] at hother
    obtain rfl := Option.some.inj hother
    exact hslept
  · rintro ⟨⟨wait, htold⟩, hslept⟩
    refine ⟨wait, htold, hslept wait ?_⟩
    rw [htold]
    rfl

/-- The replies before the last exchange are waited on and this one is answered, exactly if the
replies can be waited on and the exchange is conclusive. -/
theorem converse_endsAt_iff (net : Network) (order : Order) {made retries : Nat}
    (h : made + retries ≤ 1024) :
    (converse net order made retries).EndsAt net order made (net.patience order made retries)
      ↔ (∀ i ∈ List.range' made (net.patience order made retries), net.Waitable order i)
        ∧ net.Conclusive order (made + net.patience order made retries) := by
  induction retries generalizing made with
  | zero =>
      rw [converse, Network.patience, single_endsAt_iff]
      simp
  | succ retries ih =>
      have hlast : ∀ {c : Conversation},
          c = ⟨[order], [], answer order.url (net.outcome order made)⟩ →
          (c.EndsAt net order made 0 ↔ (∀ i ∈ List.range' made 0, net.Waitable order i)
            ∧ net.Conclusive order (made + 0)) := by
        rintro c rfl
        rw [single_endsAt_iff]
        simp
      rw [converse, Network.patience]
      cases hexchange : net.outcome order made with
      | failure timedOut reason => exact hlast (by rw [hexchange])
      | refusal cause => exact hlast (by rw [hexchange])
      | reply r =>
          dsimp only
          by_cases hstatus : r.status = tooManyRequests
          · -- the reply is waited on if that is possible, and else ends the call
            have hpatience := Exchange.asksPatience_reply_iff.mpr hstatus
            rw [if_pos hstatus, if_pos hpatience, List.range'_succ, List.forall_mem_cons,
              ← exists_waitAfter_iff hexchange (by omega)]
            cases hwait : waitAfter net made r with
            | error fault =>
                constructor
                · intro hends
                  have hlength := congrArg List.length hends.orders
                  simp at hlength
                · intro hall
                  obtain ⟨⟨wait, hnone⟩, -⟩ := hall.1
                  cases hnone
            | ok wait =>
                dsimp only
                rw [Conversation.after_endsAt_iff (delay?_of_waitAfter hexchange hwait),
                  ih (by omega), ← Nat.add_assoc, Nat.add_right_comm, and_assoc]
                exact (and_iff_right ⟨wait, rfl⟩).symm
          · rw [if_neg hstatus, if_neg (mt Exchange.asksPatience_reply_iff.mp hstatus)]
            exact hlast (by rw [hexchange]; rfl)

/-- Whatever the replies are, the order is always the same and not given again after the first
exchange that does not ask for patience. -/
theorem converse_isRepeated (net : Network) (order : Order) (made retries : Nat) :
    (converse net order made retries).IsRepeated net order made
      (net.patience order made retries) := by
  induction retries generalizing made with
  | zero =>
      rw [converse]
      exact Conversation.isRepeated_single _
  | succ retries ih =>
      rw [converse, Network.patience]
      cases hexchange : net.outcome order made with
      | failure timedOut reason => exact Conversation.isRepeated_single _
      | refusal cause => exact Conversation.isRepeated_single _
      | reply r =>
          dsimp only
          by_cases hstatus : r.status = tooManyRequests
          · rw [if_pos hstatus, if_pos (Exchange.asksPatience_reply_iff.mpr hstatus)]
            cases hwait : waitAfter net made r with
            | error fault => exact Conversation.isRepeated_single _
            | ok wait => exact (ih (made + 1)).after (delay?_of_waitAfter hexchange hwait)
          · rw [if_neg hstatus]
            exact Conversation.isRepeated_single _

-- ====================================================== attempts by number

/-- The conversation that attempts with these numbers lead to, of which there are at most `most`;
none if the list ends before an attempt has ended the call. -/
def attempts (net : Network) (order : Order) (most : Nat) : List Nat → Option Conversation
  | [] => none
  | attempt :: rest =>
    match net.outcome order (attempt - 1) with
    | .reply r =>
      if r.status ≠ tooManyRequests ∨ attempt = most then some ⟨[order], [], conclude r⟩
      else
        match waitAfter net (attempt - 1) r with
        | .error fault => some ⟨[order], [], .error (.fault fault)⟩
        | .ok wait => (attempts net order most rest).map (·.after order wait)
    | exchange => some ⟨[order], [], answer order.url exchange⟩

/-- The attempts that are left end the call. -/
theorem attempts_eq_some (net : Network) (order : Order) (made retries : Nat) :
    attempts net order (made + retries + 1) (List.range' (made + 1) (retries + 1))
      = some (converse net order made retries) := by
  induction retries generalizing made with
  | zero =>
      rw [List.range'_succ, attempts, converse, Nat.add_sub_cancel]
      cases net.outcome order made with
      | reply r => exact if_pos (Or.inr rfl)
      | failure timedOut reason => rfl
      | refusal cause => rfl
  | succ retries ih =>
      rw [List.range'_succ, attempts, converse, Nat.add_sub_cancel]
      cases net.outcome order made with
      | failure timedOut reason => rfl
      | refusal cause => rfl
      | reply r =>
          dsimp only
          by_cases hstatus : r.status = tooManyRequests
          · -- the number of the attempt is not that of the last one, so the list goes on
            have hnotLast :
                ¬(r.status ≠ tooManyRequests ∨ made + 1 = made + (retries + 1) + 1) := by
              omega
            rw [if_neg hnotLast, if_pos hstatus]
            cases hwait : waitAfter net made r with
            | error fault => rfl
            | ok wait =>
                have hrest := ih (made + 1)
                rw [Nat.add_right_comm made 1 retries, Nat.add_assoc made retries 1] at hrest
                dsimp only
                rw [hrest]
                rfl
          · rw [if_neg hstatus, if_pos (Or.inl hstatus)]

-- ====================================================== the call

variable {check : List (String × String) → Except Fault Unit} {baseUrl : String}
  {token : Option String} {maxAttempts : Int} {c : Client}

/-- A client makes at least one attempt, and as many as it was told. -/
theorem maxAttempts_of_create (h : create check baseUrl token maxAttempts = .ok c) :
    (c.maxAttempts : Int) = max 1 maxAttempts := by
  obtain ⟨-, -, h⟩ := Except.bind_eq_ok_iff.mp h
  obtain rfl := Except.ok.inj h
  dsimp only
  omega

/-- A call that an order can be made of is a conversation of all attempts. -/
theorem call_eq_converse {asked : Call} (h : c.order asked = .ok order) (net : Network) :
    c.call net asked = converse net order 0 (c.maxAttempts - 1) := by
  unfold call
  rw [h]

/-- Where a call ends, with so many attempts allowed and exchanges of any kind. There is a first
exchange that does not ask for patience, or the last one allowed. The call gives its order up to
there, waits after each reply before by the delay of that reply, and answers what that exchange
says, exactly if these replies name no date beyond all calendars and no wait that cannot be made,
and the exchange has an envelope if it is a reply. Otherwise it ends early or without an envelope;
but in no case does it come further, give another order or wait in another way, and in no case are
the attempts used up before the call has ended. -/
theorem call_ends_at_first_final_iff
    (hclient : create check baseUrl token maxAttempts = .ok c) (hmost : max 1 maxAttempts ≤ 1024)
    {asked : Call} (horder : c.order asked = .ok order) (net : Network) :
    ∃ last : Nat, last + 1 ≤ max 1 maxAttempts
      ∧ (∀ i < last, (net.outcome order i).asksPatience = true)
      ∧ (last + 1 = max 1 maxAttempts ∨ (net.outcome order last).asksPatience = false)
      ∧ ((c.call net asked).EndsAt net order 0 last
          ↔ (∀ i < last, net.Waitable order i) ∧ net.Conclusive order last)
      ∧ (c.call net asked).IsRepeated net order 0 last
      ∧ attempts net order (max 1 maxAttempts).toNat (List.range' 1 (max 1 maxAttempts).toNat)
          = some (c.call net asked) := by
  have hattempts := maxAttempts_of_create hclient
  obtain ⟨retries, hretries⟩ : ∃ retries, c.maxAttempts = retries + 1 :=
    Nat.exists_eq_add_one.mpr c.maxAttempts_pos
  have hn : (max 1 maxAttempts).toNat = retries + 1 := by omega
  have hcall := call_eq_converse horder net
  rw [hretries, Nat.add_sub_cancel] at hcall
  have hle : net.patience order 0 retries ≤ retries := Network.patience_le 0 retries
  have hlimit : 0 + retries ≤ 1024 := by omega
  have hends := converse_endsAt_iff net order hlimit
  have hloop := attempts_eq_some net order 0 retries
  have hspec : net.patience order 0 retries = retries
      ∨ (net.outcome order (0 + net.patience order 0 retries)).asksPatience = false :=
    Network.patience_spec 0 retries
  have hbefore : ∀ {P : Nat → Prop}, (∀ i ∈ List.range' 0 (net.patience order 0 retries), P i)
      ↔ ∀ i < net.patience order 0 retries, P i := by
    intro P
    simp [List.mem_range'_1]
  simp only [Nat.zero_add] at hends hloop hspec
  rw [hbefore] at hends
  rw [hcall, hn]
  refine ⟨net.patience order 0 retries, by omega, ?_, hspec.imp_left fun hlast => by omega, hends,
    converse_isRepeated net order 0 retries, hloop⟩
  exact hbefore.mp fun i hi => Network.asksPatience_of_mem_range' hi

end Client

-- ====================================================== replies that end a call too early

namespace HastyServer

/-- A client that makes three attempts. -/
def client : Client := ⟨"https://api.test", Client.headersOf none, 3, by decide⟩

/-- A call that asks for a list. -/
def asked : Call := ⟨"GET", "/tasks", [], .null, none⟩

/-- Its order. -/
def order : Order := ⟨"GET", "https://api.test/tasks", [], .empty⟩

/-- A reply that asks for patience, and says in a header for how long. -/
def busy (header : String) : Reply :=
  ⟨429, fun name => if name = "retry-after" then some header else none, .ok ""⟩

/-- A server that asks for patience once and then answers, and a machine to wait for it. -/
def network (header : String) : Network where
  outcome _ i := if i = 0 then .reply (busy header) else .reply ⟨200, fun _ => none, .ok "[]"⟩
  clock _ := 0
  sleep := RetryDelay.sleep

/-- A day in a year nobody counts. -/
def farDate : String := "Mon, 01 Jan 99999999999 00:00:00 GMT"

/-- Almost three hundred years, in seconds. -/
def longWait : String := "9300000000"

theorem create_eq : Client.create Request.checkHeaders "https://api.test" none 3 = .ok client := by
  rfl

theorem order_eq : client.order asked = .ok order := by rfl

/-- Neither of them can be waited on. -/
theorem not_waitable : ∀ header ∈ [farDate, longWait], ¬(network header).Waitable order 0 := by
  intro header hheader hwaitable
  rcases List.mem_cons.mp hheader with rfl | hheader
  · exact hwaitable.1 (busy farDate) rfl
      ⟨farDate, rfl, by decide, by decide⟩
  · obtain rfl := List.mem_singleton.mp hheader
    have hdelay : (network longWait).delay? order 0 = some (.ofInt 9300000000) := by decide
    have hslept := hwaitable.2 _ hdelay (by decide)
    revert hslept
    decide +kernel

end HastyServer

/-- A date beyond all calendars ends a call that has attempts left, although the next exchange would
answer it; and so does a wait of three hundred years. -/
theorem Client.hastyServer_ends_call :
    Client.create Request.checkHeaders "https://api.test" none 3 = .ok HastyServer.client
      ∧ (max 1 3 : Int) ≤ 1024
      ∧ HastyServer.client.order HastyServer.asked = .ok HastyServer.order
      ∧ ∀ header ∈ [HastyServer.farDate, HastyServer.longWait],
          ((HastyServer.network header).outcome HastyServer.order 0).asksPatience = true
          ∧ ((HastyServer.network header).outcome HastyServer.order 1).asksPatience = false
          ∧ ¬(HastyServer.client.call (HastyServer.network header) HastyServer.asked).EndsAt
              (HastyServer.network header) HastyServer.order 0 1 := by
  have hmost : (max 1 3 : Int) ≤ 1024 := by decide
  refine ⟨HastyServer.create_eq, hmost, HastyServer.order_eq, fun header hheader => ?_⟩
  have hfirst : ((HastyServer.network header).outcome HastyServer.order 0).asksPatience = true :=
    rfl
  have hsecond : ((HastyServer.network header).outcome HastyServer.order 1).asksPatience = false :=
    rfl
  refine ⟨hfirst, hsecond, fun hends => ?_⟩
  obtain ⟨last, -, hbefore, hend, hiff, -⟩ := call_ends_at_first_final_iff HastyServer.create_eq
    hmost HastyServer.order_eq (HastyServer.network header)
  -- the second exchange is the one that should end the call
  have hlast : last = 1 := by
    match last with
    | 0 =>
        rcases hend with hcount | hpatience
        · cases hcount
        · rw [hfirst] at hpatience
          cases hpatience
    | 1 => rfl
    | last + 2 =>
        have hasks := hbefore 1 (by omega)
        rw [hsecond] at hasks
        cases hasks
  rw [hlast] at hiff
  exact HastyServer.not_waitable header hheader ((hiff.mp hends).1 0 Nat.one_pos)

end ApiCommands
