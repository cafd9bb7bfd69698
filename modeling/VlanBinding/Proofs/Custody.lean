import VlanBinding.Proofs.Attempts

/-!
The token that is held, told from all that was sent. Main statement: exchange by exchange a request
keeps the account of the token: none is held exactly if none was issued or the one issued last was
rejected since, and the one that is held is the one issued last.
-/

namespace VlanBinding

open VlanBinding.Http

namespace Rest

variable {k : Settings.Keystone} {past : List (List Exchange)} {before log rest : List Exchange}
variable {x : Exchange}

/-! ## What was sent so far -/

/-- The token that was handed out last. -/
def lastIssued (k : Settings.Keystone) (log : List Exchange) : Option String :=
  (log.filterMap (issued? k)).getLast?

/-- The first attempt of a request, after its logins: its token is rejected. -/
def Rejects (k : Settings.Keystone) (before : List Exchange) (x : Exchange) : Prop :=
  (∀ y ∈ before, IsLogin k y.request) ∧ ¬ IsLogin k x.request ∧ x.status? = some 401

/-- The exchanges so far, request by request, leave no token: none was ever handed out, or the last
one was rejected at the first attempt of a request and none was handed out since. -/
def Tokenless (k : Settings.Keystone) (past : List (List Exchange)) : Prop :=
  lastIssued k past.flatten = none ∨
    ∃ earlier before x after later, past = earlier ++ (before ++ x :: after) :: later ∧
      Rejects k before x ∧ lastIssued k (after ++ later.flatten) = none

theorem lastIssued_concat (log : List Exchange) (x : Exchange) :
    lastIssued k (log ++ [x]) = (issued? k x).or (lastIssued k log) := by
  rw [lastIssued, List.filterMap_append, List.getLast?_append, lastIssued]
  cases hx : issued? k x <;> simp [hx]

theorem lastIssued_concat_eq_none_iff :
    lastIssued k (log ++ [x]) = none ↔ issued? k x = none ∧ lastIssued k log = none := by
  rw [lastIssued_concat, Option.or_eq_none_iff]

theorem flatten_concat_concat (past : List (List Exchange)) (before : List Exchange)
    (x : Exchange) : (past ++ [before ++ [x]]).flatten = (past ++ [before]).flatten ++ [x] := by
  simp

/-- The element in the middle of a list is its last one or comes before it. -/
theorem eq_or_mem_of_concat_eq {α : Type} {l pre post : List α} {y z : α}
    (h : l ++ [z] = pre ++ y :: post) :
    (post = [] ∧ l = pre ∧ z = y) ∨ ∃ rest, post = rest ++ [z] ∧ l = pre ++ y :: rest := by
  rcases post.eq_nil_or_concat' with rfl | ⟨rest, w, rfl⟩
  · obtain ⟨hl, hz⟩ := List.append_inj' h rfl
    exact Or.inl ⟨rfl, hl, List.singleton_inj.mp hz⟩
  · rw [← List.cons_append, ← List.append_assoc] at h
    obtain ⟨hl, hz⟩ := List.append_inj' h rfl
    obtain rfl := List.singleton_inj.mp hz
    exact Or.inr ⟨rest, rfl, hl⟩

/-- A request that has sent nothing yet makes no difference. -/
theorem tokenless_concat_nil : Tokenless k (past ++ [[]]) ↔ Tokenless k past := by
  have hflatten (past : List (List Exchange)) : (past ++ [[]]).flatten = past.flatten := by simp
  constructor
  · rintro (hnever | ⟨earlier, b, y, after, later, hpast, hrejects, hsince⟩)
    · rw [hflatten] at hnever
      exact Or.inl hnever
    · rcases eq_or_mem_of_concat_eq hpast with ⟨-, -, hlast⟩ | ⟨later, rfl, rfl⟩
      · simp at hlast
      · rw [hflatten] at hsince
        exact Or.inr ⟨earlier, b, y, after, later, rfl, hrejects, hsince⟩
  · rintro (hnever | ⟨earlier, b, y, after, later, rfl, hrejects, hsince⟩)
    · rw [← hflatten] at hnever
      exact Or.inl hnever
    · refine Or.inr ⟨earlier, b, y, after, later ++ [[]], by simp, hrejects, ?_⟩
      rwa [hflatten]

/-- One more exchange of a request leaves no token if it hands none out, and either there was none
before or the exchange rejects the one there was. -/
theorem tokenless_concat_concat :
    Tokenless k (past ++ [before ++ [x]]) ↔
      issued? k x = none ∧ (Tokenless k (past ++ [before]) ∨ Rejects k before x) := by
  have hsince (after : List Exchange) (later : List (List Exchange)) :
      lastIssued k (after ++ (later ++ [before ++ [x]]).flatten) = none ↔
        issued? k x = none ∧ lastIssued k (after ++ (later ++ [before]).flatten) = none := by
    rw [flatten_concat_concat, ← List.append_assoc, lastIssued_concat_eq_none_iff]
  constructor
  · rintro (hnever | ⟨earlier, b, y, after, later, hpast, hrejects, hnone⟩)
    · obtain ⟨hx, hnever⟩ := (hsince [] past).mp hnever
      exact ⟨hx, Or.inl (Or.inl hnever)⟩
    · rcases eq_or_mem_of_concat_eq hpast with ⟨rfl, rfl, hlast⟩ | ⟨later, rfl, rfl⟩
      · -- the rejection is in the request itself: it is the exchange, or comes before it
        rw [List.flatten_nil, List.append_nil] at hnone
        rcases eq_or_mem_of_concat_eq hlast with ⟨rfl, rfl, rfl⟩ | ⟨after, rfl, rfl⟩
        · exact ⟨issued?_of_not_isLogin hrejects.2.1, Or.inr hrejects⟩
        · obtain ⟨hx, hnone⟩ := lastIssued_concat_eq_none_iff.mp hnone
          refine ⟨hx, Or.inl (Or.inr ⟨past, b, y, after, [], rfl, hrejects, ?_⟩)⟩
          rwa [List.flatten_nil, List.append_nil]
      · obtain ⟨hx, hnone⟩ := (hsince after later).mp hnone
        refine ⟨hx, Or.inl (Or.inr ⟨earlier, b, y, after, later ++ [before], ?_, hrejects, hnone⟩)⟩
        simp
  · rintro ⟨hx, (hnever | ⟨earlier, b, y, after, later, hpast, hrejects, hnone⟩) | hrejects⟩
    · exact Or.inl ((hsince [] past).mpr ⟨hx, hnever⟩)
    · apply Or.inr
      -- the rejection was in this request, or in one before it
      rcases eq_or_mem_of_concat_eq hpast with ⟨rfl, rfl, rfl⟩ | ⟨later, rfl, rfl⟩
      · rw [List.flatten_nil, List.append_nil] at hnone
        refine ⟨past, b, y, after ++ [x], [], by simp, hrejects, ?_⟩
        rw [List.flatten_nil, List.append_nil]
        exact lastIssued_concat_eq_none_iff.mpr ⟨hx, hnone⟩
      · refine ⟨earlier, b, y, after, later ++ [before ++ [x]], by simp, hrejects, ?_⟩
        exact (hsince after later).mpr ⟨hx, hnone⟩
    · exact Or.inr ⟨past, before, x, [], [], rfl, hrejects, rfl⟩

/-! ## Exchange by exchange -/

/-- How one exchange of a request turns the token held, `before` being what the request sent so far:
where none is held there is a login, and where one is held the request is sent with it. -/
inductive Takes (k : Settings.Keystone) (own : Option String → Option Http.Request)
    (before : List Exchange) : Option String → Exchange → Option String → Prop
  | login {x : Exchange} (hlogin : IsLogin k x.request) : Takes k own before none x (issued? k x)
  | rejected {token : String} {x : Exchange} (hown : own (some token) = some x.request)
      (hrejects : Rejects k before x) : Takes k own before (some token) x none
  | served {token : String} {x : Exchange} (hown : own (some token) = some x.request)
      (hlogin : ¬ IsLogin k x.request) (hserves : ¬ Rejects k before x) :
      Takes k own before (some token) x (some token)

/-- How the exchanges of a request turn the token held, one after the other. -/
inductive Conducts (k : Settings.Keystone) (own : Option String → Option Http.Request) :
    List Exchange → Option String → List Exchange → Option String → Prop
  | nil {before : List Exchange} {held : Option String} : Conducts k own before held [] held
  | cons {before log : List Exchange} {x : Exchange} {held between after : Option String}
      (hx : Takes k own before held x between)
      (hlog : Conducts k own (before ++ [x]) between log after) :
      Conducts k own before held (x :: log) after

/-- The token held is known from what was sent. -/
structure Accounts (k : Settings.Keystone) (past : List (List Exchange)) (held : Option String) :
    Prop where
  tokenless : held = none ↔ Tokenless k past
  latest : ∀ token, held = some token → lastIssued k past.flatten = some token

variable {own : Option String → Option Http.Request} {held between after : Option String}

theorem Takes.isLogin_iff (hx : Takes k own before held x after) :
    IsLogin k x.request ↔ held = none := by
  cases hx with
  | login hlogin => exact iff_of_true hlogin rfl
  | rejected _ hrejects => exact iff_of_false hrejects.2.1 (Option.some_ne_none _)
  | served _ hlogin _ => exact iff_of_false hlogin (Option.some_ne_none _)

theorem Takes.request (hx : Takes k own before held x after) (hlogin : ¬ IsLogin k x.request) :
    ∃ token, held = some token ∧ own (some token) = some x.request := by
  cases hx with
  | login hlogin' => exact absurd hlogin' hlogin
  | rejected hown _ | served hown _ _ => exact ⟨_, rfl, hown⟩

theorem Accounts.start (k : Settings.Keystone) : Accounts k [] none where
  tokenless := iff_of_true rfl (Or.inl rfl)
  latest := fun _ h => by cases h

theorem Accounts.concat_nil (h : Accounts k past held) : Accounts k (past ++ [[]]) held where
  tokenless := h.tokenless.trans tokenless_concat_nil.symm
  latest := by
    rw [List.flatten_append, List.flatten_singleton, List.append_nil]
    exact h.latest

/-- One exchange keeps the account. -/
theorem Accounts.takes (h : Accounts k (past ++ [before]) held)
    (hx : Takes k own before held x after) : Accounts k (past ++ [before ++ [x]]) after := by
  cases hx with
  | login hlogin =>
      have hnone := h.tokenless.mp rfl
      refine ⟨?_, fun token htoken => ?_⟩
      · rw [tokenless_concat_concat]
        exact ⟨fun hx => ⟨hx, Or.inl hnone⟩, And.left⟩
      · rw [flatten_concat_concat, lastIssued_concat, htoken, Option.some_or]
  | rejected hown hrejects =>
      refine ⟨iff_of_true rfl ?_, fun token htoken => by cases htoken⟩
      rw [tokenless_concat_concat]
      exact ⟨issued?_of_not_isLogin hrejects.2.1, Or.inr hrejects⟩
  | served hown hlogin hserves =>
      refine ⟨iff_of_false (Option.some_ne_none _) ?_, fun token htoken => ?_⟩
      · rw [tokenless_concat_concat]
        rintro ⟨-, hnone | hrejects⟩
        · cases h.tokenless.mpr hnone
        · exact hserves hrejects
      · rw [flatten_concat_concat, lastIssued_concat, issued?_of_not_isLogin hlogin, Option.none_or]
        exact h.latest token htoken

theorem Conducts.append (hlog : Conducts k own before held log between)
    (hrest : Conducts k own (before ++ log) between rest after) :
    Conducts k own before held (log ++ rest) after := by
  induction hlog with
  | nil =>
      rw [List.append_nil] at hrest
      exact hrest
  | cons hx _ ih =>
      rw [List.append_cons] at hrest
      exact .cons hx (ih hrest)

/-- The exchanges of a request keep the account. -/
theorem Accounts.conducts (h : Accounts k (past ++ [before]) held)
    (hlog : Conducts k own before held log after) :
    Accounts k (past ++ [before ++ log]) after := by
  induction hlog with
  | nil =>
      rw [List.append_nil]
      exact h
  | @cons before _ _ _ _ _ hx _ ih =>
      rw [List.append_cons before]
      exact ih (h.takes hx)

/-- Whatever exchange of a request is looked at, it is one of a chain, and the account is kept
until then. -/
theorem Accounts.takes_of_conducts {held : Option String} (h : Accounts k (past ++ [before]) held)
    (hlog : Conducts k own before held (log ++ x :: rest) after) :
    ∃ mid mid', Accounts k (past ++ [before ++ log]) mid ∧
      Takes k own (before ++ log) mid x mid' := by
  induction log generalizing before held with
  | nil =>
      cases hlog with
      | @cons _ _ _ _ between _ hx _ =>
          rw [List.append_nil]
          exact ⟨held, between, h, hx⟩
  | cons y log ih =>
      cases hlog with
      | cons hy hlog =>
          rw [List.append_cons before]
          exact ih (h.takes hy) hlog

/-! ## Attempts -/

variable {reaches : Url → Bool} {path : String}

/-- A token goes out with the request that is sent with it. -/
def Shows (own : Option String → Option Http.Request) : Prop :=
  ∀ token r, own (some token) = some r → r.token = some token

theorem Answered.request_eq {request? : Option Http.Request} {r : Except Error Response}
    (h : Answered request? path r log) (hx : x ∈ log) : request? = some x.request := by
  cases h with
  | unsent => cases hx
  | dropped hr | answered hr =>
      obtain rfl := List.mem_singleton.mp hx
      exact hr

theorem Answered.status?_eq {request? : Option Http.Request} {r : Except Error Response}
    (h : Answered request? path r log) (hx : x ∈ log) :
    x.status? = r.toOption.map Response.status := by
  cases h with
  | unsent => cases hx
  | dropped _ hreply =>
      obtain rfl := List.mem_singleton.mp hx
      exact Exchange.status?_of_drop hreply
  | answered _ hreply =>
      obtain rfl := List.mem_singleton.mp hx
      exact Exchange.status?_of_response hreply

/-- At most one request is sent. -/
theorem Answered.eq_nil_or_singleton {request? : Option Http.Request} {r : Except Error Response}
    (h : Answered request? path r log) : log = [] ∨ ∃ x, log = [x] := by
  cases h with
  | unsent => exact Or.inl rfl
  | dropped hr | answered hr => exact Or.inr ⟨_, rfl⟩

theorem LoggedIn.isLogin {r : Except Error String} (h : LoggedIn k reaches r log) (hx : x ∈ log) :
    IsLogin k x.request := by
  cases h with
  | unsent => cases hx
  | failed hlogin _ _ =>
      obtain rfl := List.mem_singleton.mp hx
      exact hlogin
  | issued hissued =>
      obtain rfl := List.mem_singleton.mp hx
      exact isLogin_of_issued? hissued

theorem LoggedIn.conducts {r : Except Error String} (h : LoggedIn k reaches r log) :
    Conducts k own before none log r.toOption := by
  have hlogin {x : Exchange} {token : Option String} (hlogin : IsLogin k x.request)
      (hissued : issued? k x = token) : Conducts k own before none [x] token := by
    rw [← hissued]
    exact .cons (.login hlogin) .nil
  cases h with
  | unsent => exact .nil
  | failed hx hissued _ => exact hlogin hx hissued
  | issued hissued => exact hlogin (isLogin_of_issued? hissued) hissued

variable {logins sent : List Exchange} {r : Except Error Response}

theorem Attempt.isLogin (h : Attempt k reaches own path held r logins sent after)
    (hx : x ∈ logins) : IsLogin k x.request := by
  cases h with
  | refused hlogin | issued hlogin _ => exact hlogin.isLogin hx
  | held _ => cases hx

theorem Attempt.not_isLogin (hown : Shows own)
    (h : Attempt k reaches own path held r logins sent after) (hx : x ∈ sent) :
    ¬ IsLogin k x.request := by
  cases h with
  | refused => cases hx
  | held hsent | issued _ hsent =>
      exact not_isLogin_of_token (hown _ _ (hsent.answered.request_eq hx))

theorem Attempt.status?_eq (h : Attempt k reaches own path held r logins sent after)
    (hx : x ∈ sent) : x.status? = r.toOption.map Response.status := by
  cases h with
  | refused => cases hx
  | held hsent | issued _ hsent => exact hsent.answered.status?_eq hx

theorem Answered.conducts {token : String} (h : Answered (own (some token)) path r sent)
    (htakes : ∀ x ∈ sent, Takes k own before (some token) x after)
    (hnil : sent = [] → after = some token) : Conducts k own before (some token) sent after := by
  rcases h.eq_nil_or_singleton with rfl | ⟨x, rfl⟩
  · rw [hnil rfl]
    exact .nil
  · exact .cons (htakes x (List.mem_singleton_self x)) .nil

theorem Attempt.sent_ne_nil {response : Response}
    (h : Attempt k reaches own path held (.ok response) logins sent after) : sent ≠ [] := by
  cases h with
  | held hsent | issued _ hsent =>
      cases hsent.answered with
      | answered => exact List.cons_ne_nil _ _

/-- An attempt whose token is not rejected, or not for the first time. -/
theorem Attempt.conducts (hown : Shows own)
    (h : Attempt k reaches own path held r logins sent after)
    (hserves : ∀ x ∈ sent, ¬ Rejects k (before ++ logins) x) :
    Conducts k own before held (logins ++ sent) after := by
  have hlogin := fun x => h.not_isLogin (x := x) hown
  cases h with
  | refused hrefused =>
      rw [List.append_nil]
      exact hrefused.conducts
  | held hsent =>
      rw [List.append_nil] at hserves
      apply hsent.answered.conducts (fun x hx => ?_) fun _ => rfl
      exact .served (hsent.answered.request_eq hx) (hlogin x hx) (hserves x hx)
  | issued hissued hsent =>
      apply hissued.conducts.append
      apply hsent.answered.conducts (fun x hx => ?_) fun _ => rfl
      exact .served (hsent.answered.request_eq hx) (hlogin x hx) (hserves x hx)

/-- A first attempt whose token is rejected. -/
theorem Attempt.conducts_of_rejected {rejected : Response} (hown : Shows own)
    (h : Attempt k reaches own path held (.ok rejected) logins sent after)
    (hrejected : rejected.status = 401) : Conducts k own [] held (logins ++ sent) none := by
  have hrejects : ∀ x ∈ sent, Rejects k logins x := by
    intro x hx
    have hstatus := h.status?_eq hx
    rw [Except.toOption, Option.map_some, hrejected] at hstatus
    exact ⟨fun y hy => h.isLogin hy, h.not_isLogin hown hx, hstatus⟩
  have hsome := h.sent_ne_nil
  cases h with
  | held hsent =>
      apply hsent.answered.conducts (fun x hx => ?_) fun hnil => absurd hnil hsome
      exact .rejected (hsent.answered.request_eq hx) (hrejects x hx)
  | issued hissued hsent =>
      apply hissued.conducts.append
      apply hsent.answered.conducts (fun x hx => ?_) fun hnil => absurd hnil hsome
      exact .rejected (hsent.answered.request_eq hx) (hrejects x hx)

/-- The exchanges of a request turn the token held, be it attempted once or twice. -/
theorem Attempts.conducts (hown : Shows own)
    (h : Attempts k reaches own path held r log after) : Conducts k own [] held log after := by
  cases h with
  | once hattempt hkept =>
      apply hattempt.conducts hown
      intro x hx hrejects
      have hstatus := (hattempt.status?_eq hx).symm.trans hrejects.2.2
      cases r with
      | error e => cases hstatus
      | ok response => exact hkept response rfl (Option.some.inj hstatus)
  | again hfirst hrejected hagain =>
      apply (hfirst.conducts_of_rejected hown hrejected).append
      apply hagain.conducts hown
      intro x hx hrejects
      -- the request itself was sent before, so this is no first attempt
      have hsent := hfirst.sent_ne_nil
      obtain ⟨y, hy⟩ := List.exists_mem_of_ne_nil _ hsent
      exact hfirst.not_isLogin hown hy (hrejects.1 y (by simp [hy]))

end Rest

end VlanBinding
