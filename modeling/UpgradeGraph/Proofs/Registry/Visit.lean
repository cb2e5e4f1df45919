import UpgradeGraph.Registry.Visit

/-!
# What a visit comes to

The web stands still while it is visited. So wherever one has been before, a visit has the same
outcome and asks for the same addresses, which come behind those that were visited already
(`Visit.Takes`). `Visit.IsSteady` says that of a visit, and it is kept by doing one visit after
another.
-/

namespace UpgradeGraph.Visit

variable {α β : Type} {visit : Visit α} {next : α → Visit β} {outcome : Except RegistryError β}
  {asked more : List Url}

/-- Wherever it starts, the visit has this outcome and asks for these addresses. -/
def Takes (visit : Visit α) (outcome : Except RegistryError α) (asked : List Url) : Prop :=
  ∀ visited, visit.run.run visited = (outcome, visited ++ asked)

theorem takes_pure (a : α) : Takes (pure a) (.ok a) [] := fun visited =>
  congrArg (Prod.mk _) (List.append_nil visited).symm

theorem takes_throw (e : RegistryError) : Takes (throw e : Visit α) (.error e) [] := fun visited =>
  congrArg (Prod.mk _) (List.append_nil visited).symm

theorem takes_ofExcept (outcome : Except RegistryError α) :
    Takes (ofExcept outcome) outcome [] := by
  cases outcome with
  | error e => exact takes_throw e
  | ok a => exact takes_pure a

theorem run_bind (visit : Visit α) (next : α → Visit β) (visited : List Url) :
    (visit >>= next).run.run visited =
      match visit.run.run visited with
      | (.ok a, visited) => (next a).run.run visited
      | (.error e, visited) => (.error e, visited) := by
  rw [ExceptT.run_bind, StateT.run_bind]
  show (match visit.run.run visited with | (result, visited) => _) = _
  rcases visit.run.run visited with ⟨_ | _, _⟩ <;> rfl

/-- What is asked next comes behind what was asked first. -/
theorem Takes.bind {a : α} (h : Takes visit (.ok a) asked) (hnext : Takes (next a) outcome more) :
    Takes (visit >>= next) outcome (asked ++ more) := by
  intro visited
  rw [run_bind, h visited]
  show (next a).run.run (visited ++ asked) = _
  rw [hnext, List.append_assoc]

/-- An error is the end of it. -/
theorem Takes.bind_error {e : RegistryError} (h : Takes visit (.error e) asked) :
    Takes (visit >>= next) (.error e) asked := by
  intro visited
  rw [run_bind, h visited]

/-- What is made of a result is not asked for. -/
theorem Takes.exists_map {outcome : Except RegistryError α} (h : Takes visit outcome asked)
    (f : α → β) : ∃ outcome, Takes (visit >>= fun a => pure (f a)) outcome asked := by
  cases outcome with
  | error e => exact ⟨_, h.bind_error⟩
  | ok a =>
    have hmap : Takes (visit >>= fun a => pure (f a)) (.ok (f a)) (asked ++ []) :=
      h.bind (takes_pure (f a))
    rw [List.append_nil] at hmap
    exact ⟨_, hmap⟩

/-! ## One request -/

variable {web : Web} {decoder : Json.Decoder α} {address subject : Text} {url : Url}

/-- The address goes behind those visited before. -/
theorem takes_note (url : Url) : Takes (modify (· ++ [url]) : Visit Unit) (.ok ()) [url] :=
  fun _ => rfl

/-- What the server responds is read. -/
theorem takes_get {r : Response} (haddress : Address.parse? address = some (.web url))
    (hreply : web url = .response r) :
    Takes (get web decoder address subject) (readResponse decoder url subject r) [url] := by
  simp only [get, haddress, hreply]
  exact (takes_note url).bind (takes_ofExcept _)

/-- A page that is there is decoded. -/
theorem takes_get_of_decode {r : Response} {a : α}
    (haddress : Address.parse? address = some (.web url)) (hreply : web url = .response r)
    (hstatus : r.isSuccess = true) (hdecode : Json.decode decoder r.body = some a) :
    Takes (get web decoder address subject) (.ok a) [url] := by
  have hrange : 200 ≤ r.status ∧ r.status < 300 := by simpa [Response.isSuccess] using hstatus
  have hread : readResponse decoder url subject r = .ok a := by
    rw [readResponse, if_neg (by omega), if_neg (by omega), hstatus, hdecode]
    rfl
  exact hread ▸ takes_get haddress hreply

/-- What is asked for at an address: nothing, if it is none or leads out of the web. -/
def addressed (address : Text) : List Url :=
  match Address.parse? address with
  | some (.web url) => [url]
  | _ => []

/-- Whatever is answered, what is asked for is said by the address. -/
theorem exists_takes_get (web : Web) (decoder : Json.Decoder α) (address subject : Text) :
    ∃ outcome, Takes (get web decoder address subject) outcome (addressed address) := by
  unfold addressed
  cases haddress : Address.parse? address with
  | none =>
    rw [get, haddress]
    exact ⟨_, takes_throw _⟩
  | some found =>
    cases found with
    | foreign written =>
      rw [get, haddress]
      exact ⟨_, takes_throw _⟩
    | web url =>
      cases hreply : web url with
      | response r => exact ⟨_, takes_get haddress hreply⟩
      | silence =>
        simp only [get, haddress, hreply]
        exact ⟨_, (takes_note url).bind (takes_throw _)⟩

/-! ## Steady visits -/

/-- The visit does not depend on those before it. -/
def IsSteady (visit : Visit α) : Prop := ∃ outcome asked, Takes visit outcome asked

theorem IsSteady.bind (h : IsSteady visit) (hnext : ∀ a, IsSteady (next a)) :
    IsSteady (visit >>= next) := by
  obtain ⟨outcome, asked, h⟩ := h
  cases outcome with
  | error e => exact ⟨_, _, h.bind_error⟩
  | ok a =>
    obtain ⟨outcome, more, hnext⟩ := hnext a
    exact ⟨_, _, h.bind hnext⟩

theorem isSteady_pure (a : α) : IsSteady (pure a : Visit α) := ⟨_, _, takes_pure a⟩

theorem isSteady_get (web : Web) (decoder : Json.Decoder α) (address subject : Text) :
    IsSteady (get web decoder address subject) := by
  obtain ⟨outcome, h⟩ := exists_takes_get web decoder address subject
  exact ⟨outcome, _, h⟩

theorem isSteady_mapM {γ : Type} {f : γ → Visit α} (h : ∀ c, IsSteady (f c)) (items : List γ) :
    IsSteady (items.mapM f) := by
  induction items with
  | nil => exact isSteady_pure []
  | cons item items ih =>
    rw [List.mapM_cons]
    exact (h item).bind fun a => ih.bind fun rest => isSteady_pure (a :: rest)

/-! ## Results -/

/-- What the visit brings home, if it succeeds. -/
def result? (visit : Visit α) : Option α := (visit.run.run []).1.toOption

theorem Takes.result?_eq {outcome : Except RegistryError α} (h : Takes visit outcome asked) :
    visit.result? = outcome.toOption := by
  rw [result?, h []]

/-- The visits that come next have the same results as by themselves. -/
theorem IsSteady.result?_bind (h : IsSteady visit) (hnext : ∀ a, IsSteady (next a)) :
    (visit >>= next).result? = visit.result?.bind fun a => (next a).result? := by
  obtain ⟨outcome, asked, h⟩ := h
  cases outcome with
  | error e => rw [h.bind_error.result?_eq, h.result?_eq]; rfl
  | ok a =>
    obtain ⟨outcome, more, hnext⟩ := hnext a
    rw [(h.bind hnext).result?_eq, h.result?_eq]
    exact hnext.result?_eq.symm

/-- What a request is about matters for its errors only. -/
theorem result?_get_congr (web : Web) (decoder : Json.Decoder α) (address subject subject' : Text) :
    (get web decoder address subject).result? = (get web decoder address subject').result? := by
  have hread (url : Url) (r : Response) : (readResponse decoder url subject r).toOption =
      (readResponse decoder url subject' r).toOption := by
    simp only [readResponse]
    split
    · rfl
    · rfl
  cases haddress : Address.parse? address with
  | none => simp only [get, haddress]
  | some found =>
    cases found with
    | foreign written => simp only [get, haddress]
    | web url =>
      cases hreply : web url with
      | response r =>
        rw [(takes_get haddress hreply).result?_eq, (takes_get haddress hreply).result?_eq, hread]
      | silence => simp only [get, haddress, hreply]

theorem result?_mapM_congr {γ : Type} {f f' : γ → Visit α} (h : ∀ c, IsSteady (f c))
    (h' : ∀ c, IsSteady (f' c)) (hcongr : ∀ c, (f c).result? = (f' c).result?) (items : List γ) :
    Visit.result? (items.mapM f) = Visit.result? (items.mapM f') := by
  induction items with
  | nil => rfl
  | cons item items ih =>
    have hrest (a : α) : IsSteady (do return a :: (← items.mapM f)) :=
      (isSteady_mapM h items).bind fun rest => isSteady_pure (a :: rest)
    have hrest' (a : α) : IsSteady (do return a :: (← items.mapM f')) :=
      (isSteady_mapM h' items).bind fun rest => isSteady_pure (a :: rest)
    rw [List.mapM_cons, List.mapM_cons, (h item).result?_bind hrest, (h' item).result?_bind hrest',
      hcongr item]
    refine congrArg _ (funext fun a => ?_)
    rw [(isSteady_mapM h items).result?_bind fun rest => isSteady_pure (a :: rest),
      (isSteady_mapM h' items).result?_bind fun rest => isSteady_pure (a :: rest), ih]

end UpgradeGraph.Visit
