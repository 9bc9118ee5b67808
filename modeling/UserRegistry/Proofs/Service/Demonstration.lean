import UserRegistry.Proofs.Store.Requests

/-!
# The demonstration on any service

The demonstration knows nothing of the service it runs on. Whatever the states and the operations
of a service are, it creates its user, and where that succeeds it asks for the record under the id
of the user, in the state that creating left. It makes no other call, and it answers what the last
call answered: `Demonstrates`.

Calls cannot be seen in what an action leaves, so the demonstration is run on a service that notes
every call and the state it met (`Service.noting`). Both backends follow from the two equations for
any service, `run_scenario_ok` and `run_scenario_error`, and from what their operations do.
-/

namespace UserRegistry

variable {σ : Type}

/-! ## Noting calls -/

/-- An action that also notes what was asked, and in what state. -/
def Action.noting (r : Request) (x : Action σ α) : Action (σ × List (Request × σ)) α := fun p =>
  ((x.run p.1).1, (x.run p.1).2, p.2 ++ [(r, p.1)])

/-- A service that does what another one does, and notes every call. -/
def Service.noting (service : Service σ) : Service (σ × List (Request × σ)) where
  get id := (service.get id).noting (.get id)
  create user := (service.create user).noting (.create user)
  update user := (service.update user).noting (.update user)
  delete id := (service.delete id).noting (.delete id)

theorem Action.run_noting {r : Request} {x : Action σ α} {s t : σ} {report : Report α}
    (h : x.run s = (report, t)) (calls : List (Request × σ)) :
    (x.noting r).run (s, calls) = (report, t, calls ++ [(r, s)]) := by
  show ((x.run s).1, (x.run s).2, calls ++ [(r, s)]) = _
  rw [h]

/-! ## Any service -/

/-- What the demonstration with a user does on a service in a state. -/
structure Demonstrates (service : Service σ) (u : User) (s : σ) : Prop where
  /-- Where the user cannot be created, that is the only call, and its failure is the answer. -/
  notCreated : ∀ f es t, (service.create (some u)).run s = (⟨.error f, es⟩, t) →
    (scenario service.noting u).run (s, []) =
      (⟨.error f, .runningScenario u.id :: es⟩, t, [(.create (some u), s)])
  /-- Where it was created, the record is asked for in the state that is left then. There is no
  further call, and the answer, be it a record or a failure, is the one to this call. A record that
  was found is told of, after all that the service told of. -/
  created : ∀ es t r t', (service.create (some u)).run s = (⟨.ok (), es⟩, t) →
    (service.get u.id).run t = (r, t') →
    (scenario service.noting u).run (s, []) =
      (⟨r.result, .runningScenario u.id :: (es ++ (r.events ++ toldAtEnd r.result))⟩, t',
        [(.create (some u), s), (.get u.id, t)])
  /-- Calls that are noted are the calls that are made. -/
  noted : (scenario service u).run s =
    (((scenario service.noting u).run (s, [])).1, ((scenario service.noting u).run (s, [])).2.1)
  /-- On a service that does not itself tell of records found, one is told of exactly if it is the
  answer. -/
  told : (∀ v, .foundUser v ∉ ((service.create (some u)).run s).1.events) →
    (∀ v, .foundUser v ∉
      ((service.get u.id).run ((service.create (some u)).run s).2).1.events) →
    ∀ v, .foundUser v ∈ ((scenario service u).run s).1.events ↔
      ((scenario service u).run s).1.result = .ok v
  message : ∀ v : User, (Event.foundUser v).message = "Found user: " ++ v.text

theorem mem_toldAtEnd (v : User) (r : Result User) : .foundUser v ∈ toldAtEnd r ↔ r = .ok v := by
  cases r with
  | ok u => simp [toldAtEnd, eq_comm]
  | error f => simp [toldAtEnd]

theorem demonstrates_any (service : Service σ) (u : User) (s : σ) : Demonstrates service u s := by
  have hcalls {report : Report Unit} {t : σ}
      (h : (service.create (some u)).run s = (report, t)) :
      (service.noting.create (some u)).run (s, []) = (report, t, [(.create (some u), s)]) :=
    Action.run_noting h []
  have hnotCreated {f : Failure} {es : List Event} {t : σ}
      (h : (service.create (some u)).run s = (⟨.error f, es⟩, t)) :=
    run_scenario_error (hcalls h)
  have hcreated {es : List Event} {t t' : σ} {r : Report User}
      (h : (service.create (some u)).run s = (⟨.ok (), es⟩, t))
      (hget : (service.get u.id).run t = (r, t')) :=
    run_scenario_ok (hcalls h) (Action.run_noting hget [(.create (some u), s)])
  refine ⟨fun f es t => hnotCreated, fun es t r t' => hcreated, ?_, ?_, fun v => rfl⟩
  · cases hcreate : (service.create (some u)).run s with
    | mk report t =>
      obtain ⟨result, es⟩ := report
      cases result with
      | error f => rw [run_scenario_error hcreate, hnotCreated hcreate]
      | ok a => rw [run_scenario_ok hcreate rfl, hcreated hcreate rfl]
  · intro hcreateTells hgetTells v
    cases hcreate : (service.create (some u)).run s with
    | mk report t =>
      obtain ⟨result, es⟩ := report
      rw [hcreate] at hcreateTells hgetTells
      have hes : .foundUser v ∉ es := hcreateTells v
      cases result with
      | error f =>
        rw [run_scenario_error hcreate]
        simp [hes]
      | ok a =>
        cases hget : (service.get u.id).run t with
        | mk r t' =>
          have hr : .foundUser v ∉ r.events := by
            rw [hget] at hgetTells
            exact hgetTells v
          rw [run_scenario_ok hcreate hget]
          simp [hes, hr, mem_toldAtEnd]

/-! ## The two backends -/

/-- What the demonstration makes of a store, and what it answers. -/
structure Store.Demonstrated (s t : Store) (u : User) (answer : Result User) : Prop where
  answer : answer = .ok u
  record : (Request.get u.id).answer t = .ok (some u)
  contains : t.contains u.id = true
  others : ∀ id, id ≠ u.id →
    (Request.get id).answer t = (Request.get id).answer s ∧ t.contains id = s.contains id
  size : t.size = if s.contains u.id then s.size else s.size + 1

/-- In a store the demonstration finds the user it created. -/
theorem Store.demonstrated (s : Store) (u : User) :
    Demonstrated s ((scenario service u).run s).2 u ((scenario service u).run s).1.result := by
  rw [run_scenario]
  refine ⟨rfl, ?_, (contains_put s u u.id).2 (.inl rfl), fun id hid => ?_, size_put s u⟩
  · rw [answer_eq, respond, find?_put, if_pos rfl]
  · have hfind : (s.put u).find? id = s.find? id := by rw [find?_put, if_neg (Ne.symm hid)]
    refine ⟨?_, ?_⟩
    · rw [answer_eq, answer_eq, respond, respond, hfind]
      cases s.find? id <;> rfl
    · rw [contains_eq_isSome, hfind, contains_eq_isSome]

/-- The stand-in answers the canned record under the id that it is asked for. -/
theorem StandIn.run_scenario (u : User) (s : Unit) : (scenario service u).run s =
    (⟨.ok (user u.id), [.runningScenario u.id, .standInCreate, .standInGet u.id,
      .foundUser (user u.id)]⟩, ()) := by
  have hcreate : (service.create (some u)).run s = (⟨.ok (), [.standInCreate]⟩, ()) := rfl
  have hget : (service.get u.id).run () = (⟨.ok (user u.id), [.standInGet u.id]⟩, ()) := rfl
  exact run_scenario_ok hcreate hget

/-- The state of a service after requests. -/
def Service.leftBy (service : Service σ) (rs : List Request) (s : σ) : σ :=
  rs.foldl (fun s r => ((r.perform service).run s).2) s

/-- **The demonstration creates its user, then asks for it, and answers what it is told**, on
every service. In a store it therefore finds its own user and touches no other record, and the
stand-in gives it the canned record under its id, whatever was asked before. -/
theorem demonstrates :
    (∀ {σ : Type} (service : Service σ) (u : User) (s : σ), Demonstrates service u s) ∧
    (∀ (s : Store) (u : User), Store.Demonstrated s ((scenario Store.service u).run s).2 u
      ((scenario Store.service u).run s).1.result) ∧
    ∀ (rs : List Request) (u : User),
      ((scenario StandIn.service u).run (StandIn.service.leftBy rs ())).1.result =
        .ok ⟨u.id, "Mock User", "mock@example.com"⟩ := by
  refine ⟨demonstrates_any, Store.demonstrated, fun rs u => ?_⟩
  rw [StandIn.run_scenario]
  rfl

end UserRegistry
