import Mathlib.Data.List.Induction
import UserRegistry.Proofs.Configuration.Sharing

/-!
# Reloads that overlap

A reload has two steps. It loads settings from the world as it is at one moment, and later it puts
them into the cell that all copies of a loader share. The lock of the cell is held for the second
step only: in between, files and variables may change, and other reloads may take both their steps.

A step is known by its moment, which is its place in the run, and a reload by the moment at which
it loads. Each load has an order of its own, and one that panics changes nothing. Once a reload has
finished, every copy shows what was loaded then or later, unless a reload that had loaded before was
still under way and finished afterwards (`shown_after_reload`). That does happen: the slower of two
reloads brings back what the faster one had replaced (`shown_overtaken`). A reload with nothing
between its steps is `Loader.reload` (`load_swap`).
-/

namespace UserRegistry.Configuration

open UserRegistry.Layers (Order)

/-- What the copies of a loader share, how many steps were taken so far, and the reloads under way:
`waiting` holds what each has loaded and not yet put into the cell, by the moment of its load. -/
structure Concurrent extends Shared where
  clock : Nat
  waiting : List (Nat × Settings)

/-- One step of one of those who hold a copy, or of the world around them. -/
inductive Move where
  /-- Files or variables change. -/
  | change (world : World)
  /-- A copy is made of a copy. -/
  | clone (handle : Nat)
  /-- A reload through a copy loads, in an order of this load. If that fails or panics, so does the
  reload, and it is over. -/
  | load (handle : Nat) (order : Order)
  /-- The reload that loaded at a moment puts its settings into the cell and succeeds. -/
  | swap (moment : Nat)

namespace Concurrent

def ofLoader (l : Loader) (w : World) : Concurrent :=
  { Shared.ofLoader l w with clock := 0, waiting := [] }

def UnderWay (s : Concurrent) (moment : Nat) : Prop :=
  (s.waiting.lookup moment).isSome = true

instance (s : Concurrent) (moment : Nat) : Decidable (s.UnderWay moment) :=
  inferInstanceAs (Decidable (_ = true))

/-- What a step does, the clock apart; without a copy of the number or a reload of the moment given
nothing happens. -/
def act (s : Concurrent) : Move → Concurrent
  | .change w => { s with world := w }
  | .clone i => { s with toShared := s.toShared.step (.clone i) }
  | .load i o =>
    match s.handle? i with
    | none => s
    | some l =>
      if l.place.panic? s.world o = none then
        match (l.place.load s.world o).result with
        | .ok t => { s with waiting := (s.clock, t) :: s.waiting }
        | .error _ => s
      else s
  | .swap m =>
    match s.waiting.lookup m with
    | some t => { s with current := t, waiting := Keyed.remove m s.waiting }
    | none => s

def step (s : Concurrent) (m : Move) : Concurrent :=
  { s.act m with clock := s.clock + 1 }

def run (s : Concurrent) (moves : List Move) : Concurrent :=
  moves.foldl step s

@[simp] theorem run_nil (s : Concurrent) : s.run [] = s := rfl

theorem run_append (s : Concurrent) (ms ns : List Move) : s.run (ms ++ ns) = (s.run ms).run ns :=
  List.foldl_append

theorem run_concat (s : Concurrent) (ms : List Move) (m : Move) :
    s.run (ms ++ [m]) = (s.run ms).step m := by
  simp [run]

theorem clock_run (s : Concurrent) (ms : List Move) : (s.run ms).clock = s.clock + ms.length := by
  induction ms using List.reverseRecOn with
  | nil => rfl
  | append_singleton ms m ih =>
    have hstep : ((s.run ms).step m).clock = (s.run ms).clock + 1 := rfl
    rw [run_concat, hstep, ih, List.length_append, List.length_singleton]
    omega

/-! ## What a single step does -/

section
variable {s : Concurrent} {i m : Nat} {o : Order} {l : Loader} {t : Settings}

theorem act_load_ok (hi : s.handle? i = some l) (hpanic : l.place.panic? s.world o = none)
    (ht : l.place.settings s.world o = .ok t) :
    s.act (.load i o) = { s with waiting := (s.clock, t) :: s.waiting } := by
  simp only [act, hi, hpanic, load_result, ht, if_true]

theorem act_load_error {f : Failure} (hi : s.handle? i = some l)
    (hf : l.place.settings s.world o = .error f) : s.act (.load i o) = s := by
  simp only [act, hi, load_result, hf, ite_self]

theorem act_load_panic (hi : s.handle? i = some l) (hpanic : l.place.panic? s.world o ≠ none) :
    s.act (.load i o) = s := by
  simp only [act, hi, if_neg hpanic]

theorem act_load_none (hi : s.handle? i = none) : s.act (.load i o) = s := by
  simp only [act, hi]

theorem act_swap (ht : s.waiting.lookup m = some t) :
    s.act (.swap m) = { s with current := t, waiting := Keyed.remove m s.waiting } := by
  simp only [act, ht]

theorem act_swap_none (hm : s.waiting.lookup m = none) : s.act (.swap m) = s := by
  simp only [act, hm]

end

/-- A reload with nothing between its steps is the reload of a loader. -/
theorem load_swap {s : Concurrent} (hclock : s.waiting.lookup s.clock = none) (i : Nat)
    (o : Order) :
    ((s.step (.load i o)).step (.swap s.clock)).toShared = s.toShared.step (.reload i o) := by
  have hidle (h : s.act (.load i o) = s) :
      ((s.step (.load i o)).step (.swap s.clock)).toShared = s.toShared := by
    rw [step, step, h]
    simp only [act, hclock]
  cases hi : s.handle? i with
  | none =>
    rw [hidle (act_load_none hi)]
    simp only [Shared.step, hi]
  | some l =>
    by_cases hpanic : l.place.panic? s.world o = none
    · cases ht : l.place.settings s.world o with
      | ok t =>
        rw [step, step, act_load_ok hi hpanic ht, act_swap List.lookup_cons_self]
        simp only [Shared.step, hi, hpanic, (reload_ok ht).2, Loader.get, Loader.swap, if_true]
      | error f =>
        rw [hidle (act_load_error hi ht)]
        simp only [Shared.step, hi, (reload_error ht).2, Loader.get, (handle?_eq_some hi).2,
          ite_self]
    · rw [hidle (act_load_panic hi hpanic)]
      simp only [Shared.step, hi, if_neg hpanic]

/-- All that a step can do to what the copies share and to the reloads under way. -/
inductive Effect (s : Concurrent) : Move → Concurrent → Prop
  | quiet {m : Move} {s' : Concurrent} (hplaces : ∀ q ∈ s'.places, q ∈ s.places)
    (hcurrent : s'.current = s.current) (hwaiting : s'.waiting = s.waiting) : Effect s m s'
  | loads {i : Nat} {o : Order} {l : Loader} {t : Settings} (hl : s.handle? i = some l)
    (hpanic : l.place.panic? s.world o = none) (ht : l.place.settings s.world o = .ok t) :
    Effect s (.load i o) { s with clock := s.clock + 1, waiting := (s.clock, t) :: s.waiting }
  | swaps {k : Nat} {t : Settings} (ht : s.waiting.lookup k = some t) :
    Effect s (.swap k)
      { s with clock := s.clock + 1, current := t, waiting := Keyed.remove k s.waiting }

theorem effect (s : Concurrent) (m : Move) : Effect s m (s.step m) := by
  have hidle (h : s.act m = s) : Effect s m (s.step m) := by
    rw [step, h]
    exact .quiet (fun _ hq => hq) rfl rfl
  cases m with
  | change w => exact .quiet (fun _ hq => hq) rfl rfl
  | clone i =>
    refine .quiet (fun q hq => ?_) ?_ rfl
    · simp only [step, act, Shared.step] at hq
      cases hi : s.handle? i with
      | none => simpa only [hi] using hq
      | some l =>
        simp only [hi, List.mem_append, List.mem_singleton] at hq
        rcases hq with hq | rfl
        · exact hq
        · exact (handle?_eq_some hi).1
    · simp only [step, act, Shared.step]
      cases s.handle? i <;> rfl
  | load i o =>
    cases hi : s.handle? i with
    | none => exact hidle (act_load_none hi)
    | some l =>
      by_cases hpanic : l.place.panic? s.world o = none
      · cases ht : l.place.settings s.world o with
        | ok t =>
          rw [step, act_load_ok hi hpanic ht]
          exact .loads hi hpanic ht
        | error f => exact hidle (act_load_error hi ht)
      · exact hidle (act_load_panic hi hpanic)
  | swap k =>
    cases ht : s.waiting.lookup k with
    | none => exact hidle (act_swap_none ht)
    | some t =>
      rw [step, act_swap ht]
      exact .swaps ht

/-! ## The invariants of a run -/

/-- What the load at a moment of a run made settings of: the world as it was then, in the order of
that load. -/
def LoadedAt (s : Concurrent) (p : Place) (moves : List Move) (moment : Nat) (t : Settings) :
    Prop :=
  ∃ i o, moves[moment]? = some (.load i o) ∧
    p.panic? (s.run (moves.take moment)).world o = none ∧
    (Loader.start p (s.run (moves.take moment)).world o).result = .ok ⟨p, t⟩

theorem LoadedAt.lt {s : Concurrent} {p : Place} {moves : List Move} {m : Nat} {t : Settings}
    (h : LoadedAt s p moves m t) : m < moves.length := by
  obtain ⟨i, o, hi, -⟩ := h
  exact (List.getElem?_eq_some_iff.1 hi).1

/-- Later steps do not change what was loaded. -/
theorem LoadedAt.append {s : Concurrent} {p : Place} {moves : List Move} {m : Nat} {t : Settings}
    (h : LoadedAt s p moves m t) (more : List Move) : LoadedAt s p (moves ++ more) m t := by
  have hlt := h.lt
  obtain ⟨i, o, hi, hload⟩ := h
  refine ⟨i, o, ?_, ?_⟩
  · rw [List.getElem?_append_left hlt, hi]
  · rwa [List.take_append_of_le_length (Nat.le_of_lt hlt)]

/-- All copies have one place, and what waits was loaded for it at the moment it is known by. -/
structure Traces (p : Place) (s₀ : Concurrent) (moves : List Move) : Prop where
  places : ∀ q ∈ (s₀.run moves).places, q = p
  waiting : ∀ m t, (s₀.run moves).waiting.lookup m = some t → LoadedAt s₀ p moves m t

theorem Traces.step {p : Place} {s₀ : Concurrent} (hclock : s₀.clock = 0) {moves : List Move}
    (h : Traces p s₀ moves) (m : Move) : Traces p s₀ (moves ++ [m]) := by
  have hmoment : (s₀.run moves).clock = moves.length := by rw [clock_run, hclock, Nat.zero_add]
  have heffect := effect (s₀.run moves) m
  rw [← run_concat] at heffect
  generalize hs : s₀.run (moves ++ [m]) = s at heffect
  refine ⟨fun q hq => ?_, fun k u hk => ?_⟩
  · rw [hs] at hq
    cases heffect with
    | quiet hplaces _ _ => exact h.places q (hplaces q hq)
    | loads _ _ _ => exact h.places q hq
    | swaps _ => exact h.places q hq
  · rw [hs] at hk
    cases heffect with
    | quiet _ _ hwaiting =>
      rw [hwaiting] at hk
      exact (h.waiting k u hk).append [m]
    | @loads i o l t hl hpanic ht =>
      rw [Keyed.lookup_cons] at hk
      by_cases hkm : k = (s₀.run moves).clock
      · rw [if_pos hkm] at hk
        obtain rfl := Option.some.inj hk
        rw [hmoment] at hkm
        subst hkm
        obtain rfl := h.places _ (handle?_eq_some hl).1
        refine ⟨i, o, List.getElem?_concat_length, ?_⟩
        rw [List.take_left, start_result, ht]
        exact ⟨hpanic, rfl⟩
      · rw [if_neg hkm] at hk
        exact (h.waiting k u hk).append _
    | @swaps j t ht =>
      rw [Keyed.lookup_remove] at hk
      by_cases hkj : k = j
      · rw [if_pos hkj] at hk
        cases hk
      · rw [if_neg hkj] at hk
        exact (h.waiting k u hk).append _

theorem traces {l : Loader} {w : World} (moves : List Move) :
    Traces l.place (ofLoader l w) moves := by
  induction moves using List.reverseRecOn with
  | nil => exact ⟨fun q hq => List.mem_singleton.1 hq, fun m t h => by simp [ofLoader] at h⟩
  | append_singleton moves m ih => exact ih.step rfl m

/-! ## After a reload has finished -/

/-- Where the reload of the moment `n` finished and steps were taken since: a reload older than it
can be under way, or have its settings in the cell, only if it was under way when that one
finished. -/
structure Since (p : Place) (s₀ : Concurrent) (before : List Move) (n : Nat) (after : List Move) :
    Prop where
  waiting : ∀ m, (s₀.run (before ++ .swap n :: after)).UnderWay m → m < n →
    (s₀.run before).UnderWay m
  current : ∃ m, LoadedAt s₀ p (before ++ .swap n :: after) m
      (s₀.run (before ++ .swap n :: after)).current ∧
    (m < n → (s₀.run before).UnderWay m ∧ .swap m ∈ after)

section
variable {l : Loader} {w : World} {before : List Move} {n : Nat} {t : Settings}
  (hn : ((ofLoader l w).run before).waiting.lookup n = some t)
include hn

theorem Since.start : Since l.place (ofLoader l w) before n [] := by
  have hswap : (ofLoader l w).run (before ++ [.swap n]) = _ := run_concat ..
  rw [step, act_swap hn] at hswap
  refine ⟨fun m hm _ => ?_, n, ?_, fun h => absurd h (Nat.lt_irrefl n)⟩
  · rw [UnderWay, hswap, Keyed.lookup_remove] at hm
    split at hm
    · cases hm
    · exact hm
  · rw [hswap]
    exact ((traces before).waiting n t hn).append _

theorem Since.step {after : List Move} (h : Since l.place (ofLoader l w) before n after)
    (a : Move) : Since l.place (ofLoader l w) before n (after ++ [a]) := by
  have hmoment : n < before.length := ((traces before).waiting n t hn).lt
  have hlist : before ++ .swap n :: (after ++ [a]) = before ++ .swap n :: after ++ [a] := by simp
  have heffect := effect ((ofLoader l w).run (before ++ .swap n :: after)) a
  rw [← run_concat, ← hlist] at heffect
  obtain ⟨hwaiting, m, hloaded, hm⟩ := h
  -- a step that leaves the cell alone leaves all that is said of the settings in it
  have hkept : ∃ m, LoadedAt (ofLoader l w) l.place (before ++ .swap n :: (after ++ [a])) m
        ((ofLoader l w).run (before ++ .swap n :: after)).current ∧
      (m < n → ((ofLoader l w).run before).UnderWay m ∧ .swap m ∈ after ++ [a]) := by
    refine ⟨m, ?_, fun hlt => ⟨(hm hlt).1, List.mem_append_left _ (hm hlt).2⟩⟩
    rw [hlist]
    exact hloaded.append [a]
  generalize hs : (ofLoader l w).run (before ++ .swap n :: (after ++ [a])) = s at heffect
  refine ⟨fun k hk hlt => ?_, ?_⟩
  · rw [hs, UnderWay] at hk
    cases heffect with
    | quiet _ _ hsame =>
      rw [hsame] at hk
      exact hwaiting k hk hlt
    | loads _ _ _ =>
      have hclock : k ≠ ((ofLoader l w).run (before ++ .swap n :: after)).clock := by
        have hzero : (ofLoader l w).clock = 0 := rfl
        rw [clock_run, hzero, List.length_append]
        omega
      rw [Keyed.lookup_cons, if_neg hclock] at hk
      exact hwaiting k hk hlt
    | @swaps j u _ =>
      rw [Keyed.lookup_remove] at hk
      split at hk
      · cases hk
      · exact hwaiting k hk hlt
  · rw [hs]
    cases heffect with
    | quiet _ hsame _ =>
      rw [hsame]
      exact hkept
    | loads _ _ _ => exact hkept
    | @swaps k u hk =>
      refine ⟨k, ?_, fun hlt => ⟨hwaiting k ?_ hlt, by simp⟩⟩
      · rw [hlist]
        exact ((traces _).waiting k u hk).append _
      · rw [UnderWay, hk]
        rfl

theorem since (after : List Move) : Since l.place (ofLoader l w) before n after := by
  induction after using List.reverseRecOn with
  | nil => exact .start hn
  | append_singleton after a ih => exact ih.step hn a

end

/-- **What is shown after a reload has finished.** Take any run from a loader, and in it a reload
that loaded at the moment `n` and now succeeds. From then on every copy shows what a reload loaded
at the moment `n` or later, with one exception: a reload that had loaded before, was still under
way then and succeeds afterwards may be the one that is shown. -/
theorem shown_after_reload {l₀ l : Loader} {w₀ : World} {before : List Move} {n : Nat}
    (hn : ((ofLoader l₀ w₀).run before).UnderWay n) (after : List Move) {i : Nat}
    (hi : ((ofLoader l₀ w₀).run (before ++ .swap n :: after)).handle? i = some l) :
    l.place = l₀.place ∧ (∃ t, LoadedAt (ofLoader l₀ w₀) l₀.place before n t) ∧
      ∃ m, LoadedAt (ofLoader l₀ w₀) l₀.place (before ++ .swap n :: after) m l.get ∧
        (m < n → ((ofLoader l₀ w₀).run before).UnderWay m ∧ .swap m ∈ after) := by
  obtain ⟨t, ht⟩ := Option.isSome_iff_exists.1 hn
  obtain ⟨m, hloaded, hm⟩ := (since ht after).current
  obtain ⟨hmem, hcurrent⟩ := handle?_eq_some hi
  refine ⟨(traces _).places _ hmem, ⟨t, (traces before).waiting n t ht⟩, m, ?_, hm⟩
  rw [Loader.get, hcurrent]
  exact hloaded

/-- The file of `oneFile` with another id in it, and the loader of its folder. -/
def edited : World :=
  ⟨Folder.empty.write "config/default.toml" (.file ⟨"[demo]\nid = 4\n", false⟩), .empty⟩

def editedLoader : Loader :=
  ⟨oneFileLoader.place, { demo := { id := 4 } }⟩

/-- A reload loads, the file changes, and a second reload loads. -/
def bothLoaded : List Move :=
  [.load 0 .listed, .change edited, .load 0 .listed]

/-- The loader of `oneFile` in a world, with settings in the cell and reloads under way. -/
def sharing (w : World) (clock : Nat) (t : Settings) (waiting : List (Nat × Settings)) :
    Concurrent :=
  ⟨Shared.ofLoader ⟨oneFileLoader.place, t⟩ w, clock, waiting⟩

theorem step_sharing_load {w : World} {t u : Settings}
    (hpanic : oneFileLoader.place.panic? w .listed = none)
    (h : oneFileLoader.place.settings w = .ok u) (c : Nat) (ws : List (Nat × Settings)) :
    (sharing w c t ws).step (.load 0 .listed) = sharing w (c + 1) t ((c, u) :: ws) := by
  have hi : (sharing w c t ws).handle? 0 = some ⟨oneFileLoader.place, t⟩ := rfl
  rw [step, act_load_ok hi hpanic h]
  rfl

/-- The first reload is under way, with the id that the file had before it changed. -/
theorem run_firstLoaded : (ofLoader oneFileLoader oneFile).run [.load 0 .listed, .change edited] =
    sharing edited 2 oneFileLoader.current [(0, oneFileLoader.current)] := by
  have hsettings : oneFileLoader.place.settings oneFile = .ok oneFileLoader.current := by
    decide +kernel
  have hpanic : oneFileLoader.place.panic? oneFile .listed = none := by decide +kernel
  have hstart : ofLoader oneFileLoader oneFile = sharing oneFile 0 oneFileLoader.current [] := rfl
  rw [hstart, run, List.foldl_cons, step_sharing_load hpanic hsettings]
  rfl

/-- Both are under way. -/
theorem run_bothLoaded : (ofLoader oneFileLoader oneFile).run bothLoaded =
    sharing edited 3 oneFileLoader.current
      [(2, editedLoader.current), (0, oneFileLoader.current)] := by
  have hsettings : oneFileLoader.place.settings edited = .ok editedLoader.current := by
    decide +kernel
  have hpanic : oneFileLoader.place.panic? edited .listed = none := by decide +kernel
  have hmoves : bothLoaded = [.load 0 .listed, .change edited] ++ [.load 0 .listed] := rfl
  rw [hmoves, run_concat, run_firstLoaded, step_sharing_load hpanic hsettings]

/-- The second reload has succeeded, and then the first one. -/
theorem run_overtaken : (ofLoader oneFileLoader oneFile).run (bothLoaded ++ .swap 2 :: [.swap 0]) =
    sharing edited 5 oneFileLoader.current [] := by
  rw [run_append, run_bothLoaded]
  rfl

theorem shown_after_reload_overtaken :
    ((ofLoader oneFileLoader oneFile).run bothLoaded).UnderWay 2 ∧
      ((ofLoader oneFileLoader oneFile).run (bothLoaded ++ .swap 2 :: [.swap 0])).handle? 0 =
        some oneFileLoader ∧
      ∃ m, LoadedAt (ofLoader oneFileLoader oneFile) oneFileLoader.place
          (bothLoaded ++ .swap 2 :: [.swap 0]) m oneFileLoader.get ∧
        (m < 2 → ((ofLoader oneFileLoader oneFile).run bothLoaded).UnderWay m ∧
          .swap m ∈ [Move.swap 0]) := by
  have hn : ((ofLoader oneFileLoader oneFile).run bothLoaded).UnderWay 2 := by
    rw [run_bothLoaded]
    rfl
  have hi : ((ofLoader oneFileLoader oneFile).run (bothLoaded ++ .swap 2 :: [.swap 0])).handle? 0 =
      some oneFileLoader := by
    rw [run_overtaken]
    rfl
  exact ⟨hn, hi, (shown_after_reload hn [.swap 0] hi).2.2⟩

/-- **A reload can bring back what a later one had replaced.** The second of two reloads succeeds
with the id 4, and afterwards the copy shows the id 3 again, which no load since then has found. -/
theorem shown_overtaken :
    (Loader.start oneFileLoader.place oneFile).result = .ok oneFileLoader ∧
      ((ofLoader oneFileLoader oneFile).run bothLoaded).UnderWay 2 ∧
      ((ofLoader oneFileLoader oneFile).run (bothLoaded ++ .swap 2 :: [.swap 0])).handle? 0 =
        some oneFileLoader ∧
      ¬ ∃ m, 2 ≤ m ∧ LoadedAt (ofLoader oneFileLoader oneFile) oneFileLoader.place
        (bothLoaded ++ .swap 2 :: [.swap 0]) m oneFileLoader.get := by
  rw [run_bothLoaded, run_overtaken]
  refine ⟨by decide +kernel, rfl, rfl, ?_⟩
  rintro ⟨m, hm, i, o, hi, -, hload⟩
  have hlt : m < (bothLoaded ++ Move.swap 2 :: [.swap 0]).length :=
    (List.getElem?_eq_some_iff.1 hi).1
  have hlength : (bothLoaded ++ Move.swap 2 :: [.swap 0]).length = 5 := rfl
  obtain rfl | rfl | rfl : m = 2 ∨ m = 3 ∨ m = 4 := by omega
  · obtain rfl : o = .listed := by
      simp only [bothLoaded, List.cons_append, List.nil_append, List.getElem?_cons_succ,
        List.getElem?_cons_zero, Option.some.injEq, Move.load.injEq] at hi
      exact hi.2.symm
    have hedited : (Loader.start oneFileLoader.place edited).result = .ok editedLoader := by
      decide +kernel
    have hmoves : (bothLoaded ++ Move.swap 2 :: [.swap 0]).take 2 =
      [.load 0 .listed, .change edited] := rfl
    have hworld : (sharing edited 2 oneFileLoader.current
      [(0, oneFileLoader.current)]).world = edited := rfl
    rw [hmoves, run_firstLoaded, hworld, hedited] at hload
    have hid := congrArg (fun l => l.current.demo.id) (Except.ok.inj hload)
    exact absurd hid (by decide)
  · simp [bothLoaded] at hi
  · simp [bothLoaded] at hi

end Concurrent

end UserRegistry.Configuration
