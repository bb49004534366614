import SiteServer.Http.Visit
import SiteServer.Proofs.Store.Appending

/-!
# Logins and registrations

What a posted form does is what the page says that answers it, and a registration counts for
good (`Visit.actions_do_what_they_say`).

A request touches the store only to register somebody (`Route.route_of_registers`,
`Route.route_eq_of_not_registers`), so that what is done to a store by requests is what can be
done to it by registrations alone (`Visit.exists_use`).  And whoever is known keeps the password
(`Visit.password?_applyAll`).
-/

namespace SiteServer

namespace Store

/-- Somebody who is not known comes last. -/
theorem Credentials.users_put {c : Credentials} {user : String} (password : String)
    (h : c.password? user = none) :
    (c.put user password).users = c.users ++ [(user, password)] := by
  have hall : ∀ row ∈ c.users, (row.1 != user) = true := by
    intro row hrow
    rw [Credentials.password?, List.lookup_eq_none_iff] at h
    exact bne_iff_ne.mpr fun heq => by simpa [heq] using h row hrow
  rw [Credentials.put, List.filter_eq_self.mpr hall]

/-- That one row was added behind a handle, at the end, and nothing else has changed: in memory
behind the other rows, in a file as a line behind everything that was there. -/
def Backend.Gains (b : Backend) (before after : Storage) (row : Row) : Prop :=
  match b with
  | memory =>
    after = { before with table := { before.table with rows := before.table.rows ++ [row] } }
  | file _ i => after = { before with files := before.files.append i (Record.encode row.1 row.2) }

theorem Backend.gains_of_addRow {b : Backend} {before after : Storage} {user password : String}
    (h : b.addRow before user password = .ok after) : b.Gains before after (user, password) := by
  obtain ⟨-, -, ⟨rfl, heq⟩ | ⟨path, i, rfl, heq⟩⟩ := addRow_cases h <;> exact heq

/-- A user who is not known is added as soon as the storage takes the row. -/
theorem Session.insert_of_addRow {s : Session} {storage : Storage} {user password : String}
    (hunknown : s.credentials.password? user = none)
    (hadd : s.backend.addRow s.storage user password = .ok storage) :
    s.insert user password
      = (.ok (), { s with credentials := s.credentials.put user password, storage }) := by
  simp [insert, Credentials.enrol, hunknown, hadd]

/-- If the user is known, or the storage does not take the row, nothing happens. -/
theorem Session.insert_of_not_addRow {s : Session} {user password : String}
    (h : ¬(s.credentials.password? user = none ∧
      ∃ storage, s.backend.addRow s.storage user password = .ok storage)) :
    ∃ f, s.insert user password = (.error f, s) := by
  cases henrol : s.credentials.enrol s.backend s.storage user password with
  | error f => exact ⟨f, by simp [insert, henrol]⟩
  | ok result =>
    obtain ⟨hunknown, storage, hadd, -⟩ := enrol_eq_ok henrol
    exact absurd ⟨hunknown, storage, hadd⟩ h

end Store

namespace Http

/-! ## What is posted -/

/-- A request is posted to a segment that begins with this character. -/
def Request.PostsTo (r : Request) (first : Char) : Prop :=
  r.method = .post ∧ r.lastSegment.head? = some first

/-- The body of a request is text that names this user and this password. -/
def Request.Submits (r : Request) (user password : String) : Prop :=
  ∃ text, r.bodyText? = some text ∧
    Form.credentials? text = some (user.toList, password.toList)

namespace Route

variable {r : Request} {s : Store.Session} {user password : String}

theorem form?_eq_some_iff : form? r = some (user, password) ↔ r.Submits user password := by
  rw [form?, Option.map_eq_some_iff]
  constructor
  · rintro ⟨⟨u, p⟩, hform, heq⟩
    obtain ⟨text, htext, hcredentials⟩ := Option.bind_eq_some_iff.mp hform
    obtain ⟨rfl, rfl⟩ := Prod.mk.inj heq
    exact ⟨text, htext, by rw [hcredentials, String.toList_ofList, String.toList_ofList]⟩
  · rintro ⟨text, htext, hcredentials⟩
    refine ⟨(user.toList, password.toList), ?_, by simp⟩
    rw [htext, Option.bind_some, hcredentials]

/-- A body names one user and one password at most. -/
theorem submits_unique {user' password' : String} (h : r.Submits user password)
    (h' : r.Submits user' password') : user = user' ∧ password = password' :=
  Prod.mk.inj (Option.some.inj ((form?_eq_some_iff.mpr h).symm.trans (form?_eq_some_iff.mpr h')))

/-- A request registers a user: its form is posted where registrations are, the user is not
known, and the storage takes the row. -/
structure Registers (r : Request) (s : Store.Session) (user password : String) : Prop where
  posts : r.PostsTo '3'
  submits : r.Submits user password
  unknown : s.credentials.password? user = none
  accepted : ∃ storage, s.backend.addRow s.storage user password = .ok storage

/-- The storage takes a row if both fields can be written and it takes rows at all. -/
theorem registers_iff :
    Registers r s user password ↔
      r.PostsTo '3' ∧ r.Submits user password ∧ s.credentials.password? user = none ∧
        Store.Record.isField user = true ∧ Store.Record.isField password = true ∧
        s.backend.Takes s.storage := by
  rw [← Store.exists_addRow_iff]
  exact ⟨fun h => ⟨h.posts, h.submits, h.unknown, h.accepted⟩,
    fun ⟨hposts, hsubmits, hunknown, haccepted⟩ => ⟨hposts, hsubmits, hunknown, haccepted⟩⟩

/-! ## One request -/

theorem route_of_posts {first : Char} {a : Action} (h : r.PostsTo first)
    (ha : action? (some first) = some a) : route r s = act a r s := by
  rw [route, h.1, h.2, ha]

/-- A request that carries no form of an action leaves the store alone. -/
theorem route_snd_of_not_posts (h2 : ¬r.PostsTo '2') (h3 : ¬r.PostsTo '3') :
    (route r s).2 = s := by
  unfold route
  dsimp only
  split
  case h_1 a hmethod haction =>
    unfold action? at haction
    split at haction
    case h_1 hfirst => exact absurd ⟨hmethod, hfirst⟩ h2
    case h_2 hfirst => exact absurd ⟨hmethod, hfirst⟩ h3
    case h_3 => cases haction
  case h_2 => rfl

/-- A login leaves the store alone, and the page tells whether the password is right. -/
theorem route_login (h : r.PostsTo '2') :
    (route r s).2 = s ∧
      (((∃ user password, r.Submits user password ∧
          s.credentials.password? user = some password) ∧ (route r s).1 = welcomePage) ∨
        ((¬∃ user password, r.Submits user password ∧
          s.credentials.password? user = some password) ∧ (route r s).1 = loginFailedPage)) := by
  rw [route_of_posts h (show action? (some '2') = some .login from rfl), act]
  cases hform : form? r with
  | none =>
    refine ⟨rfl, Or.inr ⟨?_, rfl⟩⟩
    rintro ⟨user, password, hsubmits, -⟩
    cases hform.symm.trans (form?_eq_some_iff.mpr hsubmits)
  | some form =>
    obtain ⟨user, password⟩ := form
    have hsubmits := form?_eq_some_iff.mp hform
    refine ⟨rfl, ?_⟩
    by_cases hsame : s.credentials.password? user = some password
    · exact Or.inl ⟨⟨user, password, hsubmits, hsame⟩, if_pos hsame⟩
    · refine Or.inr ⟨?_, if_neg hsame⟩
      rintro ⟨user', password', hsubmits', hsame'⟩
      obtain ⟨rfl, rfl⟩ := submits_unique hsubmits hsubmits'
      exact hsame hsame'

/-- A registration adds one row, and then the user is known. -/
theorem route_of_registers (h : Registers r s user password) :
    ∃ storage, s.backend.addRow s.storage user password = .ok storage ∧
      route r s
        = (loginPage, { s with credentials := s.credentials.put user password, storage }) := by
  obtain ⟨storage, hadd⟩ := h.accepted
  have hinsert : Store.UserStore.insert s user password = _ :=
    Store.Session.insert_of_addRow h.unknown hadd
  refine ⟨storage, hadd, ?_⟩
  rw [route_of_posts h.posts (show action? (some '3') = some .register from rfl), act,
    form?_eq_some_iff.mpr h.submits]
  simp only [hinsert]

/-- Where no user is registered the page says so. -/
theorem route_of_not_registers (hposts : r.PostsTo '3')
    (h : ¬∃ user password, Registers r s user password) : route r s = (registerFailedPage, s) := by
  rw [route_of_posts hposts (show action? (some '3') = some .register from rfl), act]
  cases hform : form? r with
  | none => rfl
  | some form =>
    obtain ⟨user, password⟩ := form
    obtain ⟨f, hinsert⟩ := Store.Session.insert_of_not_addRow (s := s) fun hnew =>
      h ⟨user, password, hposts, form?_eq_some_iff.mp hform, hnew.1, hnew.2⟩
    have hinsert' : Store.UserStore.insert s user password = _ := hinsert
    simp only [hinsert']

/-- A request that registers nobody leaves the store alone. -/
theorem route_snd_of_not_registers (h : ¬∃ user password, Registers r s user password) :
    (route r s).2 = s := by
  by_cases h3 : r.PostsTo '3'
  · rw [route_of_not_registers h3 h]
  · by_cases h2 : r.PostsTo '2'
    · exact (route_login h2).1
    · exact route_snd_of_not_posts h2 h3

end Route

/-! ## A run of requests -/

namespace Visit

variable {sh : Store.Shared} {b : Store.Backend} {r : Request} {user password : String}

/-- What a request does to the store may be done by a use that is no request. -/
theorem exists_use (sh : Store.Shared) (visit : Visit) :
    ∃ u : Store.Use, visit.apply sh = (sh.act u).2 := by
  cases visit with
  | other u => exact ⟨u, rfl⟩
  | request b r =>
    by_cases h : ∃ user password, Route.Registers r (sh.session b) user password
    · obtain ⟨user, password, hregisters⟩ := h
      obtain ⟨storage, hadd, hroute⟩ := Route.route_of_registers hregisters
      refine ⟨.register b user password, ?_⟩
      have hinsert := Store.Session.insert_of_addRow hregisters.unknown hadd
      show (⟨(Route.route r (sh.session b)).2.credentials,
          (Route.route r (sh.session b)).2.storage⟩ : Store.Shared)
        = ⟨((sh.session b).insert user password).2.credentials,
          ((sh.session b).insert user password).2.storage⟩
      rw [hroute, hinsert]
    · refine ⟨.lookup "", ?_⟩
      simp only [apply, route, Route.route_snd_of_not_registers h]
      rfl

/-- Whoever is known keeps the password, whatever visits come. -/
theorem password?_applyAll (h : sh.credentials.password? user = some password)
    (visits : List Visit) :
    (applyAll sh visits).credentials.password? user = some password := by
  induction visits generalizing sh with
  | nil => exact h
  | cons visit visits ih =>
    obtain ⟨u, hu⟩ := exists_use sh visit
    refine ih ?_
    rw [hu]
    exact Store.Shared.password?_act h u

/-- A registration that was answered as done was one, and the user is known then. -/
theorem password?_of_registered (hposts : r.PostsTo '3') (hsubmits : r.Submits user password)
    (hanswer : (route sh b r).1 = Route.loginPage) :
    (route sh b r).2.credentials.password? user = some password := by
  by_cases h : ∃ user password, Route.Registers r (sh.session b) user password
  · obtain ⟨user', password', hregisters⟩ := h
    obtain ⟨rfl, rfl⟩ := Route.submits_unique hsubmits hregisters.submits
    obtain ⟨storage, -, hroute⟩ := Route.route_of_registers hregisters
    simp only [route, hroute]
    exact Store.Credentials.password?_put _ _ _
  · simp only [route, Route.route_of_not_registers hposts h] at hanswer
    exact absurd hanswer (by decide)

/-- **What a form has done is what the page says.**  For every request and every store as a
request sees it:

* a request that registers a user is answered with the page for logins; the user is known then,
  behind all others, and one row has been added to the storage, which every handle on a storage
  in order reads behind the rows there were;
* for a file that can be read the row is read so exactly if the last line was ended, under each of
  its names, and else that line and the record are read as one row;
* any other request leaves users and storage as they were, and if its form was posted where
  registrations are, it is answered that this has failed;
* a login is welcomed exactly if the user is known with the password given, and is else answered
  that it has failed, whatever the reason.

And whatever has come in between, who was told to be registered is welcomed with that password
and with no other. -/
theorem actions_do_what_they_say :
    (∀ (r : Request) (s : Store.Session),
      (∀ user password,
        (Route.Registers r s user password ↔
          r.PostsTo '3' ∧ r.Submits user password ∧ s.credentials.password? user = none ∧
            Store.Record.isField user = true ∧ Store.Record.isField password = true ∧
            s.backend.Takes s.storage) ∧
        (Route.Registers r s user password →
          ∃ later, Route.route r s = ("/log.html", later) ∧ later.backend = s.backend ∧
            later.credentials.users = s.credentials.users ++ [(user, password)] ∧
            s.backend.Gains s.storage later.storage (user, password) ∧
            (∀ handles rows, s.backend ∈ handles → Store.Holds handles s.storage rows →
              ∀ b ∈ handles, b.rows later.storage = .ok (rows ++ [(user, password)])) ∧
            ∀ name i mode contents, s.backend = .file name i →
              s.storage.files.objects[i]? = some (.file mode contents) →
              ∀ other k rows, s.storage.files.resolve other = .ok i →
                (Store.Backend.file other k).rows s.storage = .ok rows →
                ((Store.Backend.file other k).rows later.storage
                    = .ok (rows ++ [(user, password)]) ↔ Store.Record.Whole contents) ∧
                (¬Store.Record.Whole contents → ∃ first text, text ≠ [] ∧
                  rows = first ++ (Store.Record.ofLine? text).toList ∧
                  (Store.Backend.file other k).rows later.storage
                    = .ok (first ++ [Store.Record.mergedRow text user password])))) ∧
      ((¬∃ user password, Route.Registers r s user password) →
        (Route.route r s).2 = s ∧
          (r.PostsTo '3' → (Route.route r s).1 = "/registerError.html")) ∧
      (r.PostsTo '2' →
        ((Route.route r s).1 = "/welcome.html" ↔
          ∃ user password, r.Submits user password ∧
            s.credentials.password? user = some password) ∧
        ((Route.route r s).1 = "/welcome.html" ∨ (Route.route r s).1 = "/logError.html"))) ∧
    ∀ (sh : Store.Shared) (b : Store.Backend) (r : Request) (user password : String),
      r.PostsTo '3' → r.Submits user password → (route sh b r).1 = "/log.html" →
      ∀ (visits : List Visit) (b' : Store.Backend) (login : Request) (attempt : String),
        login.PostsTo '2' → login.Submits user attempt →
        (route (applyAll (route sh b r).2 visits) b' login).1
          = if attempt = password then "/welcome.html" else "/logError.html" := by
  refine ⟨fun r s => ⟨fun user password => ⟨Route.registers_iff, fun h => ?_⟩,
    fun h => ⟨Route.route_snd_of_not_registers h, fun hposts => ?_⟩, fun hposts => ?_⟩,
    fun sh b r user password hposts hsubmits hanswer visits b' login attempt hlogin hattempt => ?_⟩
  · obtain ⟨storage, hadd, hroute⟩ := Route.route_of_registers h
    refine ⟨_, hroute, rfl, Store.Credentials.users_put password h.unknown,
      Store.Backend.gains_of_addRow hadd,
      fun handles rows hb hholds b hmem => (hholds.addRow hb hadd).rows_eq hmem,
      fun name i mode contents hb hfile other k rows hother hrows => ?_⟩
    rw [hb] at hadd
    exact Store.Backend.rows_addRow_of_rows hfile hother hrows hadd
  · rw [Route.route_of_not_registers hposts h]
    rfl
  · obtain ⟨-, ⟨hright, hpage⟩ | ⟨hwrong, hpage⟩⟩ := Route.route_login (s := s) hposts
    · rw [hpage]
      exact ⟨⟨fun _ => hright, fun _ => rfl⟩, Or.inl rfl⟩
    · rw [hpage]
      exact ⟨⟨fun h => absurd h (by decide), fun h => absurd h hwrong⟩, Or.inr rfl⟩
  · -- whatever has come in between, the password is the one that was registered
    have hknown := password?_applyAll (password?_of_registered hposts hsubmits hanswer) visits
    obtain ⟨-, ⟨⟨user', attempt', hsubmits', hsame⟩, hpage⟩ | ⟨hwrong, hpage⟩⟩ :=
      Route.route_login (s := (applyAll (route sh b r).2 visits).session b') hlogin
    · obtain ⟨rfl, rfl⟩ := Route.submits_unique hattempt hsubmits'
      rw [if_pos (Option.some.inj (hsame.symm.trans hknown))]
      exact hpage
    · rw [if_neg fun heq : attempt = password =>
        hwrong ⟨user, attempt, hattempt, by rw [heq]; exact hknown⟩]
      exact hpage

/-- Somebody who registers where nobody was known can log in ever after, with that password and
with no other. -/
theorem actions_do_what_they_say_of_newcomer :
    let post : String → String → Request := fun path body =>
      ⟨.post, path, "HTTP/1.1", none, 0, false, Utf8.encode body⟩
    let register := post "/3" "user=ann&passwd=x&y"
    let empty : Store.Session := ⟨{}, .memory, {}⟩
    (∃ later : Store.Session, Route.route register empty = ("/log.html", later) ∧
      later.credentials.users = [("ann", "x&y")] ∧
      later.backend.rows later.storage = .ok [("ann", "x&y")]) ∧
    ∀ visits : List Visit,
      let sh := applyAll (route ⟨{}, {}⟩ .memory register).2 visits
      (route sh .memory (post "/cgi/2" "user=ann&passwd=x&y")).1 = "/welcome.html" ∧
        (route sh .memory (post "/cgi/2" "user=ann&passwd=x")).1 = "/logError.html" := by
  intro post register empty
  have hposts : register.PostsTo '3' := ⟨rfl, by decide +kernel⟩
  have hsubmits : register.Submits "ann" "x&y" :=
    ⟨"user=ann&passwd=x&y".toList, by decide +kernel, by decide +kernel⟩
  have hregisters : Route.Registers register empty "ann" "x&y" :=
    ⟨hposts, hsubmits, rfl, Store.exists_addRow_iff.mpr ⟨by decide, by decide, rfl⟩⟩
  obtain ⟨hone, hrun⟩ := actions_do_what_they_say
  obtain ⟨later, hroute, hbackend, husers, -, hrows, -⟩ :=
    ((hone register empty).1 _ _).2 hregisters
  have hanswer : (route ⟨{}, {}⟩ .memory register).1 = "/log.html" := congrArg Prod.fst hroute
  refine ⟨⟨later, hroute, husers, ?_⟩, fun visits => ⟨?_, ?_⟩⟩
  · rw [hbackend]
    exact hrows [.memory] _ (List.mem_singleton.mpr rfl)
      (.memory fun b hb => List.mem_singleton.mp hb) _ (List.mem_singleton.mpr rfl)
  · have hlogin : (post "/cgi/2" "user=ann&passwd=x&y").PostsTo '2' := ⟨rfl, by decide +kernel⟩
    exact hrun _ _ register _ _ hposts hsubmits hanswer visits _ _ "x&y" hlogin
      ⟨"user=ann&passwd=x&y".toList, by decide +kernel, by decide +kernel⟩
  · have hlogin : (post "/cgi/2" "user=ann&passwd=x").PostsTo '2' := ⟨rfl, by decide +kernel⟩
    exact hrun _ _ register _ _ hposts hsubmits hanswer visits _ _ "x" hlogin
      ⟨"user=ann&passwd=x".toList, by decide +kernel, by decide +kernel⟩

end Visit
end Http
end SiteServer
