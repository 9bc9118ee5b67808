import UserRegistry.Proofs.Store.Requests

/-!
# Leaving out what failed

A request that fails, or that only reads, leaves no trace in a store. So a run of requests may be
thinned: take any of those out, and every other request is answered as it was, and the store at the
end is the same. Take all of them out, and nothing fails any more (`traceless`).

The step is `leaves_of_idle`, over all branches of a request. A run is thinned along its transcript,
the requests with their answers, because whether a request may go depends on what it was answered.
-/

namespace UserRegistry

/-- A request with what it was answered. -/
abbrev Exchange : Type := Request × Result (Option User)

/-- Whether a request was answered with a failure, or only asked for a record. -/
def Exchange.idle : Exchange → Bool
  | (.get _, _) => true
  | (_, .error _) => true
  | (_, .ok _) => false

/-- The second list is the first one without some of its idle exchanges. -/
inductive Thinned : List Exchange → List Exchange → Prop
  | nil : Thinned [] []
  | keep (e : Exchange) {es fs : List Exchange} : Thinned es fs → Thinned (e :: es) (e :: fs)
  | drop {e : Exchange} {es fs : List Exchange} (h : e.idle = true) :
    Thinned es fs → Thinned (e :: es) fs

/-- All idle exchanges may go at once. -/
theorem Thinned.filter (es : List Exchange) : Thinned es (es.filter fun e => !e.idle) := by
  induction es with
  | nil => exact .nil
  | cons e es ih =>
    by_cases h : e.idle = true
    · rw [List.filter_cons_of_neg (by simp [h])]
      exact .drop h ih
    · rw [List.filter_cons_of_pos (by simpa using h)]
      exact .keep e ih

namespace Store

open Request

/-- Requests made one after the other, each with its answer. -/
def transcript (s : Store) (rs : List Request) : List Exchange :=
  rs.zip (answersAll rs s)

theorem transcript_cons (s : Store) (r : Request) (rs : List Request) :
    s.transcript (r :: rs) = (r, r.answer s) :: (r.leaves s).transcript rs := rfl

theorem map_snd_transcript (s : Store) (rs : List Request) :
    (s.transcript rs).map Prod.snd = answersAll rs s := by
  induction rs generalizing s with
  | nil => rfl
  | cons r rs ih => rw [transcript_cons, List.map_cons, ih, answersAll]

theorem leavesAll_cons (s : Store) (r : Request) (rs : List Request) :
    leavesAll (r :: rs) s = leavesAll rs (r.leaves s) := rfl

/-- A request that fails or only reads leaves the store as it was. -/
theorem leaves_of_idle {s : Store} {r : Request} (h : Exchange.idle (r, r.answer s) = true) :
    r.leaves s = s := by
  rw [answer_eq] at h
  rw [leaves_eq]
  cases r with
  | get id =>
    simp only [respond]
    split <;> rfl
  | create user =>
    cases user with
    | none => rfl
    | some u => cases h
  | update user =>
    cases user with
    | none => rfl
    | some u =>
      simp only [respond] at h ⊢
      split
      · rename_i hc
        rw [if_pos hc] at h
        cases h
      · rfl
  | delete id =>
    simp only [respond] at h ⊢
    split
    · rename_i hc
      rw [if_pos hc] at h
      cases h
    · rfl
  | scenario u => cases h

/-- What is left of a run after thinning is answered as in the run, and leaves the same store. -/
theorem run_thinned {s : Store} {rs : List Request} {es : List Exchange}
    (h : Thinned (s.transcript rs) es) :
    s.transcript (es.map Prod.fst) = es ∧ leavesAll (es.map Prod.fst) s = leavesAll rs s := by
  induction rs generalizing s es with
  | nil =>
    cases h
    exact ⟨rfl, rfl⟩
  | cons r rs ih =>
    rw [transcript_cons] at h
    cases h with
    | keep _ hrest =>
      obtain ⟨htranscript, hleaves⟩ := ih hrest
      rw [List.map_cons, transcript_cons, leavesAll_cons, leavesAll_cons, htranscript, hleaves]
      exact ⟨rfl, rfl⟩
    | drop hidle hrest =>
      rw [leaves_of_idle hidle] at hrest
      rw [leavesAll_cons, leaves_of_idle hidle]
      exact ih hrest

/-- The requests of a run that succeed and do more than read. -/
def effective (s : Store) (rs : List Request) : List Request :=
  ((s.transcript rs).filter fun e => !e.idle).map Prod.fst

theorem answersAll_effective {s : Store} {rs : List Request} {a : Result (Option User)}
    (h : a ∈ answersAll (s.effective rs) s) : ∃ user, a = .ok user := by
  rw [← map_snd_transcript, effective, (run_thinned (Thinned.filter _)).1] at h
  obtain ⟨⟨r, b⟩, he, rfl⟩ := List.mem_map.1 h
  have hidle := (List.mem_filter.1 he).2
  cases b with
  | ok user => exact ⟨user, rfl⟩
  | error f => cases r <;> cases hidle

/-- What failed or only read leaves no trace of a run. -/
structure Traceless (s : Store) (rs : List Request) : Prop where
  /-- Whichever of these requests are left out, the others are answered as before, and the store at
  the end is the same. -/
  anyOf : ∀ es, Thinned (s.transcript rs) es →
    s.transcript (es.map Prod.fst) = es ∧ leavesAll (es.map Prod.fst) s = leavesAll rs s
  /-- Without all of them every request succeeds, and the store at the end is the same. -/
  allOf : (∀ a ∈ answersAll (s.effective rs) s, ∃ user, a = .ok user) ∧
    leavesAll (s.effective rs) s = leavesAll rs s

/-- **Failed requests leave no trace**, from every store and in every run, whatever the requests
after them are about. -/
theorem traceless (s : Store) (rs : List Request) : Traceless s rs :=
  ⟨fun _ h => run_thinned h, fun _ h => answersAll_effective h, (run_thinned (Thinned.filter _)).2⟩

end Store

end UserRegistry
