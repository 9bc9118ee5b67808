import UserRegistry.Proofs.Store.History

/-!
# Clients of one store

Two clients send requests to one store, in any order between them. As long as no id is asked about
by both, neither notices the other: each is answered as if it were alone, and the store that is
left is the same for every order (`isolated_of_disjoint`).

A request reads and changes the record under its own id only: `answer_local` and `leaves_local` say
that nothing else is read, `leaves_other` that nothing else is changed. The invariant of a run is
that the store agrees with the one of a client alone on the ids of that client (`Agree`). A request
of the client keeps it because both stores change alike, and one of the other client because it
changes nothing there.
-/

namespace UserRegistry

/-- Two sequences merged into one, each in its own order. Every element of the merged sequence
tells which of the two it is from. -/
inductive Merged {α β : Type} : List α → List β → List (α ⊕ β) → Prop
  | nil : Merged [] [] []
  | left {a : α} {as : List α} {bs : List β} {ws : List (α ⊕ β)} :
    Merged as bs ws → Merged (a :: as) bs (.inl a :: ws)
  | right {b : β} {as : List α} {bs : List β} {ws : List (α ⊕ β)} :
    Merged as bs ws → Merged as (b :: bs) (.inr b :: ws)

namespace Request

def ids (rs : List Request) : List UserId :=
  rs.filterMap id?

/-- The requests of two clients, no matter which client made them. -/
def ofBoth (ws : List (Request ⊕ Request)) : List Request :=
  ws.map (Sum.elim id id)

/-- What the requests of two clients are answered, each answer with the client it goes to. -/
def answersBoth : List (Request ⊕ Request) → Store →
    List (Result (Option User) ⊕ Result (Option User))
  | [], _ => []
  | .inl r :: ws, s => .inl (r.answer s) :: answersBoth ws (r.leaves s)
  | .inr r :: ws, s => .inr (r.answer s) :: answersBoth ws (r.leaves s)

end Request

namespace Store

open Request

/-! ## What a request reads and changes -/

section
variable {r : Request} {s t : Store} (h : ∀ k, r.id? = some k → s.find? k = t.find? k)
include h

theorem answer_local : r.answer s = r.answer t := by
  have hcontains (k : UserId) (hk : r.id? = some k) : s.contains k = t.contains k := by
    rw [contains_eq_isSome, contains_eq_isSome, h k hk]
  rw [answer_eq, answer_eq]
  cases r with
  | get id =>
    simp only [respond, h id rfl]
    cases t.find? id <;> rfl
  | create user => cases user <;> rfl
  | update user =>
    cases user with
    | none => rfl
    | some u =>
      simp only [respond, hcontains u.id rfl]
      split <;> rfl
  | delete id =>
    simp only [respond, hcontains id rfl]
    split <;> rfl
  | scenario u => rfl

theorem changes_local : s.changes r = t.changes r := by
  have hcontains (k : UserId) (hk : r.id? = some k) : s.contains k = t.contains k := by
    rw [contains_eq_isSome, contains_eq_isSome, h k hk]
  cases r with
  | get id => rfl
  | create user => cases user <;> rfl
  | update user =>
    cases user with
    | none => rfl
    | some u => simp only [changes, succeeds_update, hcontains u.id rfl]
  | delete id => simp only [changes, succeeds_delete, hcontains id rfl]
  | scenario u => rfl

theorem leaves_local {k : UserId} (hk : s.find? k = t.find? k) :
    (r.leaves s).find? k = (r.leaves t).find? k := by
  rw [leaves_eq_changes, leaves_eq_changes, find?_foldl, find?_foldl, changes_local h, hk]

end

/-- A record under another id stays. -/
theorem leaves_other {r : Request} {k : UserId} (h : r.id? ≠ some k) (s : Store) :
    (r.leaves s).find? k = s.find? k := by
  rw [leaves_eq]
  cases r with
  | get id =>
    simp only [respond]
    cases s.find? id <;> rfl
  | create user =>
    cases user with
    | none => rfl
    | some u => exact (find?_put s u k).trans (if_neg fun e => h (congrArg some e))
  | update user =>
    cases user with
    | none => rfl
    | some u =>
      simp only [respond]
      split
      · exact (find?_put s u k).trans (if_neg fun e => h (congrArg some e))
      · rfl
  | delete id =>
    simp only [respond]
    split
    · exact (find?_erase s id k).trans (if_neg fun e => h (congrArg some e))
    · rfl
  | scenario u => exact (find?_put s u k).trans (if_neg fun e => h (congrArg some e))

/-! ## The invariant -/

def Agree (P : UserId → Prop) (s t : Store) : Prop :=
  ∀ k, P k → s.find? k = t.find? k

/-- A request about these ids is answered alike, and what it leaves agrees again. -/
theorem Agree.step {P : UserId → Prop} {s t : Store} (h : Agree P s t) {r : Request}
    (hr : ∀ k, r.id? = some k → P k) :
    r.answer s = r.answer t ∧ Agree P (r.leaves s) (r.leaves t) := by
  have hread : ∀ k, r.id? = some k → s.find? k = t.find? k := fun k hk => h k (hr k hk)
  exact ⟨answer_local hread, fun k hk => leaves_local hread (h k hk)⟩

/-- A request about other ids is not noticed. -/
theorem Agree.other {P : UserId → Prop} {s t : Store} (h : Agree P s t) {r : Request}
    (hr : ∀ k, r.id? = some k → ¬ P k) : Agree P (r.leaves s) t := by
  intro k hk
  rw [leaves_other (fun e => hr k e hk), h k hk]

/-- The requests of two clients, made in any order from a store that agrees with the one that each
client sees alone: the answers are those of the two alone, and so are the records at the end. -/
theorem merged_run {A B : List Request} {W : List (Request ⊕ Request)} (h : Merged A B W)
    {P Q : UserId → Prop} (hPQ : ∀ k, P k → ¬ Q k) (hA : ∀ a ∈ A, ∀ k, a.id? = some k → P k)
    (hB : ∀ b ∈ B, ∀ k, b.id? = some k → Q k) {s t u : Store} (ht : Agree P s t)
    (hu : Agree Q s u) :
    Merged (answersAll A t) (answersAll B u) (answersBoth W s) ∧
      Agree P (leavesAll (ofBoth W) s) (leavesAll A t) ∧
      Agree Q (leavesAll (ofBoth W) s) (leavesAll B u) ∧
      Agree (fun k => ¬ P k ∧ ¬ Q k) (leavesAll (ofBoth W) s) s := by
  induction h generalizing s t u with
  | nil => exact ⟨.nil, ht, hu, fun k _ => rfl⟩
  | @left a as bs ws _ ih =>
    have ha : ∀ k, a.id? = some k → P k := hA a (by simp)
    obtain ⟨hanswer, ht'⟩ := ht.step ha
    have hu' : Agree Q (a.leaves s) u := hu.other fun k hk => hPQ k (ha k hk)
    obtain ⟨hanswers, hendA, hendB, hrest⟩ :=
      ih (fun r hr => hA r (List.mem_cons_of_mem _ hr)) hB ht' hu'
    refine ⟨?_, hendA, hendB, fun k hk => ?_⟩
    · rw [answersAll, answersBoth, hanswer]
      exact .left hanswers
    · exact (hrest k hk).trans (leaves_other (fun e => hk.1 (ha k e)) s)
  | @right b as bs ws _ ih =>
    have hb : ∀ k, b.id? = some k → Q k := hB b (by simp)
    obtain ⟨hanswer, hu'⟩ := hu.step hb
    have ht' : Agree P (b.leaves s) t := ht.other fun k hk hP => hPQ k hP (hb k hk)
    obtain ⟨hanswers, hendA, hendB, hrest⟩ :=
      ih hA (fun r hr => hB r (List.mem_cons_of_mem _ hr)) ht' hu'
    refine ⟨?_, hendA, hendB, fun k hk => ?_⟩
    · rw [answersAll, answersBoth, hanswer]
      exact .right hanswers
    · exact (hrest k hk).trans (leaves_other (fun e => hk.2 (hb k e)) s)

/-! ## What the clients see -/

/-- Two stores look alike under an id. -/
structure AlikeAt (k : UserId) (s t : Store) : Prop where
  get : (Request.get k).answer s = (Request.get k).answer t
  contains : s.contains k = t.contains k

theorem AlikeAt.of_find? {k : UserId} {s t : Store} (h : s.find? k = t.find? k) :
    AlikeAt k s t := by
  refine ⟨answer_local fun i hi => ?_, ?_⟩
  · obtain rfl : k = i := Option.some.inj hi
    exact h
  · rw [contains_eq_isSome, contains_eq_isSome, h]

/-- Two clients whose requests are merged do not notice each other. -/
structure Isolated (A B : List Request) (W : List (Request ⊕ Request)) (s : Store) : Prop where
  /-- Every request is answered as in the run of its client alone. -/
  answers : Merged (answersAll A s) (answersAll B s) (answersBoth W s)
  /-- Under its ids each client finds at the end what it would find alone. -/
  left : ∀ k ∈ ids A, AlikeAt k (leavesAll (ofBoth W) s) (leavesAll A s)
  right : ∀ k ∈ ids B, AlikeAt k (leavesAll (ofBoth W) s) (leavesAll B s)
  /-- Under all other ids the store is as it was. -/
  other : ∀ k, k ∉ ids A → k ∉ ids B → AlikeAt k (leavesAll (ofBoth W) s) s
  /-- The order between the clients does not matter. -/
  unique : ∀ W', Merged A B W' → leavesAll (ofBoth W') s = leavesAll (ofBoth W) s

theorem mem_ids {rs : List Request} {r : Request} (hr : r ∈ rs) {k : UserId}
    (hk : r.id? = some k) : k ∈ ids rs :=
  List.mem_filterMap.2 ⟨r, hr, hk⟩

/-- **Clients with different ids do not notice each other**, from every store and for every order
of their requests, whichever of them succeed. -/
theorem isolated_of_disjoint {A B : List Request} (hdisjoint : (ids A).Disjoint (ids B))
    {W : List (Request ⊕ Request)} (hW : Merged A B W) (s : Store) : Isolated A B W s := by
  have hrun {W : List (Request ⊕ Request)} (hW : Merged A B W) :=
    merged_run hW (P := (· ∈ ids A)) (Q := (· ∈ ids B)) (fun k hA hB => hdisjoint hA hB)
      (fun a ha k hk => mem_ids ha hk) (fun b hb k hk => mem_ids hb hk)
      (s := s) (t := s) (u := s) (fun _ _ => rfl) (fun _ _ => rfl)
  obtain ⟨hanswers, hA, hB, hother⟩ := hrun hW
  refine ⟨hanswers, fun k hk => .of_find? (hA k hk), fun k hk => .of_find? (hB k hk),
    fun k hkA hkB => .of_find? (hother k ⟨hkA, hkB⟩), fun W' hW' => ext_find? fun k => ?_⟩
  obtain ⟨-, hA', hB', hother'⟩ := hrun hW'
  by_cases hkA : k ∈ ids A
  · rw [hA k hkA, hA' k hkA]
  by_cases hkB : k ∈ ids B
  · rw [hB k hkB, hB' k hkB]
  · rw [hother k ⟨hkA, hkB⟩, hother' k ⟨hkA, hkB⟩]

/-- A client that creates a record, fails to update one and takes the record away again. -/
def passingClient : List Request :=
  [.create (some ⟨⟨1⟩, "a", ""⟩), .update none, .delete ⟨1⟩, .get ⟨1⟩]

/-- A client that updates a record in vain before it creates it. -/
def hastyClient : List Request :=
  [.update (some ⟨⟨2⟩, "b", ""⟩), .create none, .create (some ⟨⟨2⟩, "b", ""⟩)]

/-- The requests of both by turns. -/
def byTurns : List (Request ⊕ Request) :=
  [.inr (.update (some ⟨⟨2⟩, "b", ""⟩)), .inl (.create (some ⟨⟨1⟩, "a", ""⟩)),
    .inl (.update none), .inr (.create none), .inl (.delete ⟨1⟩),
    .inr (.create (some ⟨⟨2⟩, "b", ""⟩)), .inl (.get ⟨1⟩)]

theorem isolated_of_disjoint_byTurns :
    (ids passingClient).Disjoint (ids hastyClient) ∧ Merged passingClient hastyClient byTurns ∧
      Isolated passingClient hastyClient byTurns (ofList [⟨⟨3⟩, "c", ""⟩]) := by
  have hdisjoint : (ids passingClient).Disjoint (ids hastyClient) := by
    have hpassing : ids passingClient = [⟨1⟩, ⟨1⟩, ⟨1⟩] := rfl
    have hhasty : ids hastyClient = [⟨2⟩, ⟨2⟩] := rfl
    rw [hpassing, hhasty]
    simp
  have hmerged : Merged passingClient hastyClient byTurns :=
    .right (.left (.left (.right (.left (.right (.left .nil))))))
  exact ⟨hdisjoint, hmerged, isolated_of_disjoint hdisjoint hmerged _⟩

end Store

end UserRegistry
