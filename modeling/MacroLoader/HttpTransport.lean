import MacroLoader.PythonValues
import MacroLoader.SqlDouble

/-!
# Requests that are tried again

The transport makes a request, and makes it again if no response came or if the
status of the response is one that passes. How long it sleeps in between is
said by the response, if it has a header for that, and by the policy otherwise.

The loop of the code leaves in three ways: it returns a response, it raises
where it is, or it breaks with a flag that is looked at after the loop. What it
has done is the same for any outcomes: requests with one sleep between two of
them, up to the first outcome that is final or to the last attempt
(`send_trace`).

Delays are computed with exactly. A number that is read from a header may still
be infinite or no number at all.
-/

/-- **`RetryPolicy`**, with what its initializer checks. -/
structure RetryPolicy where
  maxAttempts : ℕ
  initialDelaySeconds : ℚ
  multiplier : ℚ
  maxDelaySeconds : ℚ
  maxAttempts_pos : 1 ≤ maxAttempts
  initialDelaySeconds_nonneg : 0 ≤ initialDelaySeconds
  one_le_multiplier : 1 ≤ multiplier
  maxDelaySeconds_nonneg : 0 ≤ maxDelaySeconds

/-- `retryable_status`. -/
def retryableStatus (statusCode : ℤ) : Bool :=
  statusCode == 429 || (decide (500 ≤ statusCode) && decide (statusCode ≤ 599))

/-- `value >= 0`, which is false of no number. -/
def ExactDouble.nonnegative : ExactDouble → Bool
  | .rat q => decide (0 ≤ q)
  | .infinity => true
  | _ => false

/-- `min(value, bound)`, of a number that is not negative. -/
def ExactDouble.atMost (bound : ℚ) : ExactDouble → ℚ
  | .rat q => min q bound
  | _ => bound

/-- `delay_after`. -/
def RetryPolicy.delayAfter (policy : RetryPolicy) (failedAttempt : ℕ)
    (retryAfter : Option ExactDouble) : Except PyError ℚ :=
  if failedAttempt < 1 then .error (.valueError "failed_attempt must be >= 1")
  else match retryAfter.filter ExactDouble.nonnegative with
    | some seconds => .ok (seconds.atMost policy.maxDelaySeconds)
    | none => .ok (min (policy.initialDelaySeconds * policy.multiplier ^ (failedAttempt - 1))
        policy.maxDelaySeconds)

/-- `httpx.Response`, whose fields are those of what is returned. -/
structure HttpxResponse where
  statusCode : ℤ
  content : Bytes
  /-- `headers.get(name)`. -/
  header : String → Option String

/-- What one request comes to. -/
inductive AttemptOutcome
  /-- `httpx.TransportError`. -/
  | transportError
  | response (response : HttpxResponse)

/-- `RequestContext`. -/
structure RequestContext where
  provider : String
  seriesId : String
  sourceId : String
  deriving DecidableEq, Repr

/-- `ProviderHttpError`. -/
structure ProviderHttpError where
  context : RequestContext
  category : String
  requestPath : String
  statusCode : Option ℤ
  deriving DecidableEq, Repr

/-- What the transport does to the outside. -/
inductive HttpEvent
  | request
  | sleep (seconds : ℚ)
  deriving DecidableEq

/-- How `send` ends. -/
inductive SendEnd
  | returned (response : HttpxResponse)
  | raised (error : ProviderHttpError)
  /-- Another error, which no provider is to blame for. -/
  | failed (error : PyError)

/-- How the loop of `send` is left: within a round, or after the last one, with the
flag `transport_exhausted`. -/
inductive LoopEnd
  | left (last : SendEnd)
  | exhausted (transportExhausted : Bool)

section Send

variable (parseFloat : String → Option ExactDouble) (policy : RetryPolicy)
  (context : RequestContext) (safePath : String) (outcomes : ℕ → AttemptOutcome)

/-- `_retry_after_seconds`, where `float` reads a text or raises. -/
def retryAfterSeconds (response : HttpxResponse) : Option ExactDouble :=
  ((response.header "Retry-After").bind parseFloat).filter ExactDouble.nonnegative

/-- `ProviderHttpError` of a category. -/
def httpError (category : String) (statusCode : Option ℤ) : ProviderHttpError :=
  ⟨context, category, safePath, statusCode⟩

/-- Sleep before the next round, unless there is no delay to sleep for. -/
def sleepThen (delay : Except PyError ℚ) (next : List HttpEvent × LoopEnd) :
    List HttpEvent × LoopEnd :=
  match delay with
  | .ok seconds => (.request :: .sleep seconds :: next.1, next.2)
  | .error e => ([.request], .left (.failed e))

/-- The rounds of the loop from an attempt on: `range(1, max_attempts + 1)` has
`remaining` more of them. -/
def sendLoop : ℕ → ℕ → List HttpEvent × LoopEnd
  | 0, _ => ([], .exhausted false)
  | remaining + 1, attempt =>
    match outcomes attempt with
    | .transportError =>
      if policy.maxAttempts ≤ attempt then ([.request], .exhausted true)
      else sleepThen (policy.delayAfter attempt none) (sendLoop remaining (attempt + 1))
    | .response response =>
      if retryableStatus response.statusCode then
        if policy.maxAttempts ≤ attempt then
          ([.request], .left (.raised
            (httpError context safePath "http_retry_exhausted" (some response.statusCode))))
        else sleepThen (policy.delayAfter attempt (retryAfterSeconds parseFloat response))
          (sendLoop remaining (attempt + 1))
      else ([.request], .left (.returned response))

/-- **`HttpxTransport.send`**: what it does, and how it ends. -/
def send : List HttpEvent × SendEnd :=
  let run := sendLoop parseFloat policy context safePath outcomes policy.maxAttempts 1
  match run.2 with
  | .left last => (run.1, last)
  | .exhausted true => (run.1, .raised (httpError context safePath "transport_exhausted" none))
  | .exhausted false =>
    (run.1, .failed (.assertionError "retry loop exhausted without terminal result"))

/-! ## What is done for some outcomes -/

/-- Whether an outcome calls for another attempt. -/
def AttemptOutcome.retryable : AttemptOutcome → Bool
  | .transportError => true
  | .response answer => retryableStatus answer.statusCode

/-- The delay that an outcome asks for. -/
def AttemptOutcome.retryAfter : AttemptOutcome → Option ExactDouble
  | .transportError => none
  | .response answer => retryAfterSeconds parseFloat answer

/-- **The sleep after an attempt**: what the response asks for, or else what the
policy says, and no longer than the policy allows. -/
def sleepAfter (attempt : ℕ) : ℚ :=
  match (outcomes attempt).retryAfter parseFloat with
  | some seconds => seconds.atMost policy.maxDelaySeconds
  | none => min (policy.initialDelaySeconds * policy.multiplier ^ (attempt - 1))
      policy.maxDelaySeconds

/-- **The requests from an attempt on**, with one sleep after each but the last. -/
def rounds : ℕ → ℕ → List HttpEvent
  | _, 0 => [.request]
  | attempt, sleeps + 1 =>
    .request :: .sleep (sleepAfter parseFloat policy outcomes attempt) :: rounds (attempt + 1) sleeps

/-- The error when the last outcome calls for another attempt. -/
def exhaustedError : AttemptOutcome → ProviderHttpError
  | .transportError => httpError context safePath "transport_exhausted" none
  | .response response =>
    httpError context safePath "http_retry_exhausted" (some response.statusCode)

/-- How the loop is left after the last attempt. -/
def exhaustedEnd : AttemptOutcome → LoopEnd
  | .transportError => .exhausted true
  | .response response => .left (.raised (exhaustedError context safePath (.response response)))

variable {parseFloat policy context safePath outcomes}

theorem count_request_rounds (attempt sleeps : ℕ) :
    (rounds parseFloat policy outcomes attempt sleeps).count .request = sleeps + 1 := by
  induction sleeps generalizing attempt with
  | zero => rfl
  | succ sleeps ih =>
    rw [rounds, List.count_cons_self, List.count_cons_of_ne (by simp), ih]

/-- The delay of the policy is the sleep, and there is one after every attempt. -/
theorem delayAfter_eq {attempt : ℕ} (h : 1 ≤ attempt) :
    policy.delayAfter attempt ((outcomes attempt).retryAfter parseFloat)
      = .ok (sleepAfter parseFloat policy outcomes attempt) := by
  have hfilter : ((outcomes attempt).retryAfter parseFloat).filter ExactDouble.nonnegative
      = (outcomes attempt).retryAfter parseFloat := by
    cases outcomes attempt with
    | transportError => rfl
    | response response =>
      show (retryAfterSeconds parseFloat response).filter _ = retryAfterSeconds parseFloat response
      rw [retryAfterSeconds, Option.filter_filter]
      simp
  rw [RetryPolicy.delayAfter, if_neg (by omega), hfilter, sleepAfter]
  cases (outcomes attempt).retryAfter parseFloat <;> rfl

/-- A round whose outcome calls for another attempt. -/
theorem sendLoop_retry {remaining attempt : ℕ} (hattempt : 1 ≤ attempt)
    (hmore : attempt < policy.maxAttempts) (h : (outcomes attempt).retryable = true) :
    sendLoop parseFloat policy context safePath outcomes (remaining + 1) attempt
      = (.request :: .sleep (sleepAfter parseFloat policy outcomes attempt)
          :: (sendLoop parseFloat policy context safePath outcomes remaining (attempt + 1)).1,
        (sendLoop parseFloat policy context safePath outcomes remaining (attempt + 1)).2) := by
  have hdelay : policy.delayAfter attempt ((outcomes attempt).retryAfter parseFloat)
      = .ok (sleepAfter parseFloat policy outcomes attempt) := delayAfter_eq hattempt
  rw [sendLoop]
  cases houtcome : outcomes attempt with
  | transportError =>
    rw [houtcome] at hdelay
    simp only [if_neg (not_le.mpr hmore)]
    rw [show policy.delayAfter attempt none = _ from hdelay]
    rfl
  | response response =>
    rw [houtcome] at h hdelay
    simp only [if_neg (not_le.mpr hmore)]
    rw [if_pos (show retryableStatus response.statusCode = true from h),
      show policy.delayAfter attempt (retryAfterSeconds parseFloat response) = _
      from hdelay]
    rfl

/-- The last round, whose outcome calls for another attempt all the same. -/
theorem sendLoop_last {remaining attempt : ℕ} (hlast : policy.maxAttempts ≤ attempt)
    (h : (outcomes attempt).retryable = true) :
    sendLoop parseFloat policy context safePath outcomes (remaining + 1) attempt
      = ([.request], exhaustedEnd context safePath (outcomes attempt)) := by
  rw [sendLoop]
  cases houtcome : outcomes attempt with
  | transportError => simp only [if_pos hlast]; rfl
  | response response =>
    rw [houtcome] at h
    simp only [if_pos hlast]
    rw [if_pos (show retryableStatus response.statusCode = true from h)]
    rfl

/-- An outcome is final if it is a response with a status that does not pass. -/
theorem exists_response {outcome : AttemptOutcome} (h : ¬ outcome.retryable = true) :
    ∃ response, outcome = .response response
      ∧ retryableStatus response.statusCode = false := by
  cases outcome with
  | transportError => exact absurd rfl h
  | response response => exact ⟨response, rfl, Bool.eq_false_iff.mpr h⟩

/-- A round whose outcome is final. -/
theorem sendLoop_final {remaining attempt : ℕ} {response : HttpxResponse}
    (houtcome : outcomes attempt = .response response)
    (h : retryableStatus response.statusCode = false) :
    sendLoop parseFloat policy context safePath outcomes (remaining + 1) attempt
      = ([.request], .left (.returned response)) := by
  rw [sendLoop, houtcome]
  simp [h]

/-- **What the loop does from an attempt on.** -/
theorem sendLoop_rounds (remaining attempt : ℕ) (hattempt : 1 ≤ attempt)
    (hremaining : attempt + remaining = policy.maxAttempts) :
    ∃ sleeps ≤ remaining,
      (sendLoop parseFloat policy context safePath outcomes (remaining + 1) attempt).1
        = rounds parseFloat policy outcomes attempt sleeps
      ∧ (∀ k < sleeps, (outcomes (attempt + k)).retryable = true)
      ∧ ((∃ response, outcomes (attempt + sleeps) = .response response
          ∧ retryableStatus response.statusCode = false
          ∧ (sendLoop parseFloat policy context safePath outcomes (remaining + 1) attempt).2
            = .left (.returned response))
        ∨ (sleeps = remaining ∧ (outcomes (attempt + sleeps)).retryable = true
          ∧ (sendLoop parseFloat policy context safePath outcomes (remaining + 1) attempt).2
            = exhaustedEnd context safePath (outcomes (attempt + sleeps)))) := by
  induction remaining generalizing attempt with
  | zero =>
    refine ⟨0, le_rfl, ?_⟩
    by_cases hretry : (outcomes attempt).retryable = true
    · rw [sendLoop_last (by omega) hretry]
      exact ⟨rfl, by simp, .inr ⟨rfl, hretry, rfl⟩⟩
    · obtain ⟨response, houtcome, hstatus⟩ := exists_response hretry
      rw [sendLoop_final houtcome hstatus]
      exact ⟨rfl, by simp, .inl ⟨response, houtcome, hstatus, rfl⟩⟩
  | succ remaining ih =>
    by_cases hretry : (outcomes attempt).retryable = true
    · obtain ⟨sleeps, hsleeps, htrace, hall, hend⟩ := ih (attempt + 1) (by omega) (by omega)
      have hshift : attempt + 1 + sleeps = attempt + (sleeps + 1) := by omega
      rw [sendLoop_retry hattempt (by omega) hretry, htrace]
      rw [hshift] at hend
      refine ⟨sleeps + 1, by omega, rfl, fun k hk => ?_, ?_⟩
      · cases k with
        | zero => exact hretry
        | succ k =>
          rw [show attempt + (k + 1) = attempt + 1 + k by omega]
          exact hall k (by omega)
      · rcases hend with hfinal | ⟨hlast, hretry', hend⟩
        · exact .inl hfinal
        · exact .inr ⟨by omega, hretry', hend⟩
    · obtain ⟨response, houtcome, hstatus⟩ := exists_response hretry
      rw [sendLoop_final houtcome hstatus]
      exact ⟨0, by omega, rfl, by simp, .inl ⟨response, houtcome, hstatus, rfl⟩⟩

/-- What is made of the end of the loop. -/
theorem send_of_left {last : SendEnd} (h : (sendLoop parseFloat policy context safePath outcomes
    policy.maxAttempts 1).2 = .left last) :
    send parseFloat policy context safePath outcomes
      = ((sendLoop parseFloat policy context safePath outcomes policy.maxAttempts 1).1, last) := by
  rw [send]
  simp only [h]

/-- After the last attempt, the flag of the loop makes the error of its outcome. -/
theorem send_of_exhausted {outcome : AttemptOutcome} (h : (sendLoop parseFloat policy context
    safePath outcomes policy.maxAttempts 1).2 = exhaustedEnd context safePath outcome) :
    send parseFloat policy context safePath outcomes
      = ((sendLoop parseFloat policy context safePath outcomes policy.maxAttempts 1).1,
        .raised (exhaustedError context safePath outcome)) := by
  cases outcome with
  | transportError =>
    rw [send]
    simp only [h, exhaustedEnd]
    rfl
  | response response => exact send_of_left h

/-- **Requests and sleeps.** `send` makes requests up to the first outcome that does
not call for another attempt, or up to the last attempt, with one sleep between
two requests and none at the end. It returns the response of that outcome, or
raises an error that tells the last outcome, and it never runs off the loop. -/
theorem send_trace (parseFloat : String → Option ExactDouble) (policy : RetryPolicy)
    (context : RequestContext) (safePath : String) (outcomes : ℕ → AttemptOutcome) :
    (∃ n, 1 ≤ n ∧ n ≤ policy.maxAttempts
      ∧ (send parseFloat policy context safePath outcomes).1
        = rounds parseFloat policy outcomes 1 (n - 1)
      ∧ (send parseFloat policy context safePath outcomes).1.count .request = n
      ∧ (∀ k, 1 ≤ k → k < n → (outcomes k).retryable = true)
      ∧ ((∃ response, outcomes n = .response response
          ∧ retryableStatus response.statusCode = false
          ∧ (send parseFloat policy context safePath outcomes).2 = .returned response)
        ∨ (n = policy.maxAttempts ∧ (outcomes n).retryable = true
          ∧ (send parseFloat policy context safePath outcomes).2
            = .raised (exhaustedError context safePath (outcomes n)))))
    ∧ ((∃ e, (send parseFloat policy context safePath outcomes).2 = .raised e)
      ↔ ∀ k, 1 ≤ k → k ≤ policy.maxAttempts → (outcomes k).retryable = true)
    ∧ ∀ e, (send parseFloat policy context safePath outcomes).2 ≠ .failed e := by
  have hpos := policy.maxAttempts_pos
  obtain ⟨sleeps, hsleeps, htrace, hall, hend⟩ := @sendLoop_rounds parseFloat policy context
    safePath outcomes (policy.maxAttempts - 1) 1 le_rfl (by omega)
  rw [show policy.maxAttempts - 1 + 1 = policy.maxAttempts by omega] at htrace hend
  have hbefore : ∀ k, 1 ≤ k → k < 1 + sleeps → (outcomes k).retryable = true := fun k hk hlt => by
    rw [show k = 1 + (k - 1) by omega]
    exact hall (k - 1) (by omega)
  have hcount : (rounds parseFloat policy outcomes 1 sleeps).count .request = sleeps + 1 :=
    count_request_rounds 1 sleeps
  rcases hend with ⟨response, houtcome, hstatus, hend⟩ | ⟨hlast, hretry, hend⟩
  · have hsend := send_of_left hend
    rw [htrace] at hsend
    rw [hsend]
    refine ⟨⟨1 + sleeps, by omega, by omega, by rw [Nat.add_sub_cancel_left],
      hcount.trans (Nat.add_comm _ _), hbefore,
      .inl ⟨response, houtcome, hstatus, rfl⟩⟩, ?_, fun e he => nomatch he⟩
    refine ⟨fun ⟨e, he⟩ => (nomatch he), fun hretry => ?_⟩
    -- the outcome that ends the loop is among the attempts
    have hfinal := hretry (1 + sleeps) (by omega) (by omega)
    rw [houtcome] at hfinal
    exact absurd hfinal (Bool.eq_false_iff.mp hstatus)
  · have hsend := send_of_exhausted hend
    rw [htrace] at hsend
    rw [hsend]
    refine ⟨⟨1 + sleeps, by omega, by omega, by rw [Nat.add_sub_cancel_left],
      hcount.trans (Nat.add_comm _ _), hbefore,
      .inr ⟨by omega, hretry, rfl⟩⟩, ?_, fun e he => nomatch he⟩
    refine ⟨fun _ k hk hle => ?_, fun _ => ⟨_, rfl⟩⟩
    rcases Nat.lt_or_ge k (1 + sleeps) with hlt | hge
    · exact hbefore k hk hlt
    · rw [show k = 1 + sleeps by omega]
      exact hretry

end Send

/-- Two statuses that pass, the first with a header that asks for more than the
policy allows. -/
example :
    (send (fun _ => some (.rat 10)) ⟨3, 1 / 2, 2, 3, by decide, by norm_num, by norm_num, by norm_num⟩
      ⟨"fred", "us_10y", "DGS10"⟩ "https://example.test/x"
      (fun
        | 1 => .response ⟨429, [], fun _ => some "10"⟩
        | 2 => .response ⟨503, [], fun _ => none⟩
        | _ => .response ⟨200, [], fun _ => none⟩)).1
      = [.request, .sleep 3, .request, .sleep 1, .request] := by decide +kernel
