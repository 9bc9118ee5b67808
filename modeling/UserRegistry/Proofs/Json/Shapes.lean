import UserRegistry.Proofs.Json.Accepting

/-!
# The shapes of a user's document

What a document has to say to be read as a user (`Describes`): an object gives each of the three
fields once, in any order and among any members of other names, and a list of three gives them by
their places. Any text of such a document is read as the user that it describes, and any text of
any other document is refused (`shaped`).
-/

namespace UserRegistry.Json

open Keyed (under)

/-- A number without a point and without a power of ten, and the integer that it writes. A zero has
no sign. -/
inductive WritesInteger : List Char → Int → Prop
  | natural {ds : List Char} (h : IsWhole ds) : WritesInteger ds (Decimal.value ds)
  | negative {ds : List Char} (h : IsWhole ds) (hzero : ds ≠ ['0']) :
      WritesInteger ('-' :: ds) (-(Decimal.value ds : Int))

/-- An integer is written in one way only. -/
theorem writesInteger_iff {w : List Char} {i : Int} : WritesInteger w i ↔ w = Decimal.ofInt i := by
  constructor
  · intro h
    cases h with
    | natural h =>
      have hwritten := Decimal.ofNat_value h.1.1 h.1.2 h.2
      exact hwritten.symm
    | @negative ds h hzero =>
      have hwritten := Decimal.ofNat_value h.1.1 h.1.2 h.2
      have hpos : Decimal.value ds ≠ 0 := by
        intro h0
        rw [h0, Decimal.ofNat_zero] at hwritten
        exact hzero hwritten.symm
      have hneg : -(Decimal.value ds : Int) < 0 := by omega
      rw [Decimal.ofInt, if_pos hneg, Int.natAbs_neg, Int.natAbs_natCast, hwritten]
  · rintro rfl
    have hvalue := Decimal.value_ofNat i.natAbs
    by_cases hneg : i < 0
    · have hzero : Decimal.ofNat i.natAbs ≠ ['0'] := by
        intro h
        rw [h] at hvalue
        have h0 : i.natAbs = 0 := hvalue.symm
        omega
      have hwrites := WritesInteger.negative (isWhole_ofNat i.natAbs) hzero
      rw [hvalue, show -(i.natAbs : Int) = i by omega] at hwrites
      rw [Decimal.ofInt, if_pos hneg]
      exact hwrites
    · have hwrites := WritesInteger.natural (isWhole_ofNat i.natAbs)
      rw [hvalue, show (i.natAbs : Int) = i by omega] at hwrites
      rw [Decimal.ofInt, if_neg hneg]
      exact hwrites

/-- What a document has to say to be read as a user. -/
inductive Describes : Value → User → Prop
  /-- An object gives each field once. Members of other names do not count. -/
  | object {ms : List (String × Value)} {u : User} {w : List Char}
      (hid : under "id" ms = [.number w]) (hinteger : WritesInteger w u.id.value.toInt)
      (hname : under "name" ms = [.text u.name]) (hemail : under "email" ms = [.text u.email]) :
      Describes (.object ms) u
  /-- A list of three stands for the object that has them under the names of the fields. -/
  | list {id name email : Value} {u : User}
      (h : Describes (.object [("id", id), ("name", name), ("email", email)]) u) :
      Describes (.list [id, name, email]) u

/-- Whether a field of a user may hold a value: an integer of 64 bits for the id, else a text. -/
def Fits (field : String) (v : Value) : Prop :=
  if field = "id" then ∃ (w : List Char) (i : Int64), v = .number w ∧ WritesInteger w i.toInt
  else ∃ s, v = .text s

/-- An object that describes a user gives each field once, and what the field may hold. -/
theorem Describes.fits {ms : List (String × Value)} {u : User} (h : Describes (.object ms) u)
    {field : String} (hfield : field ∈ ["id", "name", "email"]) :
    ∃ v, under field ms = [v] ∧ Fits field v := by
  cases h with
  | @object _ _ w hid hinteger hname hemail =>
    simp only [List.mem_cons, List.not_mem_nil, or_false] at hfield
    rcases hfield with rfl | rfl | rfl
    · exact ⟨_, hid, by rw [Fits, if_pos rfl]; exact ⟨w, u.id.value, rfl, hinteger⟩⟩
    · exact ⟨_, hname, by rw [Fits, if_neg (by decide)]; exact ⟨u.name, rfl⟩⟩
    · exact ⟨_, hemail, by rw [Fits, if_neg (by decide)]; exact ⟨u.email, rfl⟩⟩

/-- The fields of a user with the changes that make the record one user. -/
def fieldsOf (u : User) : List (Change Reader User) := [
  (.needed "id" UserId.reader fun v u => { u with id := v }, fun v => { v with id := u.id }),
  (.needed "name" Format.text fun v u => { u with name := v }, fun v => { v with name := u.name }),
  (.needed "email" Format.text fun v u => { u with email := v },
    fun v => { v with email := u.email })]

theorem reader_eq (u : User) : (User.reader : Reader User) =
    Format.record ⟨"struct User", ⟨UserId.zero, "", ""⟩, (fieldsOf u).map Prod.fst⟩ := rfl

theorem takes_id (u : User) :
    Takes UserId.reader (.number (Decimal.ofInt u.id.value.toInt)) u.id := by
  have h := (takes_int u.id.value).map UserId.mk
  rwa [Decimal.ofInt64, String.toList_ofList] at h

theorem takes_described {v : Value} {u : User} (h : Describes v u) : Takes User.reader v u := by
  cases h with
  | object hid hinteger hname hemail =>
    obtain rfl := writesInteger_iff.1 hinteger
    rw [reader_eq u]
    refine takes_record _ _ (fieldsOf u) ?_ ?_
    · simp [fieldsOf, Independent, Field.needed]
    · simp only [fieldsOf, List.forall_mem_cons, List.not_mem_nil, false_implies, implies_true,
        and_true]
      exact ⟨.inr ⟨_, hid, (takes_id u).map _⟩, .inr ⟨_, hname, (takes_text u.name).map _⟩,
        .inr ⟨_, hemail, (takes_text u.email).map _⟩⟩
  | list h =>
    cases h with
    | object hid hinteger hname hemail =>
      obtain rfl := writesInteger_iff.1 hinteger
      obtain rfl := (List.cons.inj hid).1
      obtain rfl := (List.cons.inj hname).1
      obtain rfl := (List.cons.inj hemail).1
      rw [reader_eq u]
      exact takes_items _ _ <| .cons ((takes_id u).map _) (.cons ((takes_text u.name).map _)
        (.cons ((takes_text u.email).map _) .nil))

theorem reads_id {v : Value} {id : UserId} (h : Reads UserId.reader v id) :
    ∃ w, v = .number w ∧ WritesInteger w id.value.toInt := by
  obtain ⟨i, hi, rfl⟩ := h.of_map
  refine ⟨_, reads_int hi, writesInteger_iff.2 ?_⟩
  rw [Decimal.ofInt64, String.toList_ofList]

/-- What the values given for the fields describe. -/
theorem describes_of_reads {ms : List (String × Value)} {v₁ v₂ v₃ : Value}
    (hid : under "id" ms = [v₁]) (hname : under "name" ms = [v₂]) (hemail : under "email" ms = [v₃])
    {id : UserId} {name email : String} (h₁ : Reads UserId.reader v₁ id)
    (h₂ : Reads Format.text v₂ name) (h₃ : Reads Format.text v₃ email) :
    Describes (.object ms) ⟨id, name, email⟩ := by
  obtain ⟨w, rfl, hinteger⟩ := reads_id h₁
  obtain rfl := reads_text h₂
  obtain rfl := reads_text h₃
  exact .object hid hinteger hname hemail

theorem changes_needed {name : String} {r : Reader β} {put : β → α → α}
    {ms : List (String × Value)} {change : α → α}
    (h : Changes Reads ms (.needed name r put, change)) :
    ∃ v b, under name ms = [v] ∧ Reads r v b := by
  rcases h with ⟨-, hrequired, -⟩ | ⟨v, hv, hread⟩
  · cases hrequired
  · obtain ⟨b, hb, -⟩ := hread.of_map
    exact ⟨v, b, hv, hb⟩

theorem describes_reads {v : Value} {u : User} (h : Reads User.reader v u) : Describes v u := by
  suffices hsome : ∃ u', Describes v u' by
    obtain ⟨u', hu'⟩ := hsome
    obtain rfl := (takes_described hu').eq_of_reads h
    exact hu'
  have huniform : ∀ f ∈ (fieldsOf u).map Prod.fst, Uniform f.change := by
    simp only [fieldsOf, List.map_cons, List.map_nil, List.forall_mem_cons, List.not_mem_nil,
      false_implies, implies_true, and_true]
    exact ⟨(uniform_int.map _).map _, uniform_text.map _, uniform_text.map _⟩
  have hdistinct : (((fieldsOf u).map Prod.fst).map Field.name).Nodup := by
    simp [fieldsOf, Field.needed]
  have hrequired : ∀ f ∈ (fieldsOf u).map Prod.fst, f.required = true := by
    simp [fieldsOf, Field.needed]
  rw [reader_eq u] at h
  rcases reads_record hdistinct huniform hrequired h with ⟨ms, rfl, hms⟩ | ⟨vs, rfl, hvs⟩
  · simp only [fieldsOf, List.map_cons, List.map_nil, List.forall_mem_cons, List.not_mem_nil,
      false_implies, implies_true, and_true] at hms
    obtain ⟨⟨_, h₁⟩, ⟨_, h₂⟩, ⟨_, h₃⟩⟩ := hms
    obtain ⟨v₁, id, hid, hread₁⟩ := changes_needed h₁
    obtain ⟨v₂, name, hname, hread₂⟩ := changes_needed h₂
    obtain ⟨v₃, email, hemail, hread₃⟩ := changes_needed h₃
    exact ⟨_, describes_of_reads hid hname hemail hread₁ hread₂ hread₃⟩
  · obtain _ | ⟨⟨_, h₁⟩, _ | ⟨⟨_, h₂⟩, _ | ⟨⟨_, h₃⟩, _ | _⟩⟩⟩ := hvs
    obtain ⟨id, hread₁, -⟩ := h₁.of_map
    obtain ⟨name, hread₂, -⟩ := h₂.of_map
    obtain ⟨email, hread₃, -⟩ := h₃.of_map
    exact ⟨_, .list (describes_of_reads rfl rfl rfl hread₁ hread₂ hread₃)⟩

/-! ## Whole texts -/

/-- How a text of a value is read as a user. -/
structure Shaped (v : Value) (text : String) : Prop where
  /-- It is read as a user exactly if the value describes this user. -/
  exact : ∀ u, read User.reader text = .ok u ↔ Describes v u
  /-- If the value describes none, it is refused. -/
  refused : (∀ u, ¬ Describes v u) →
    ∃ f, read User.reader text = .error f ∧ f.code = "INTERNAL_ERROR"
  /-- An object is refused if a field is missing, stands more than once or holds something else. -/
  spoilt : ∀ ms, v = .object ms → ∀ field ∈ ["id", "name", "email"],
    (¬ ∃ x, under field ms = [x] ∧ Fits field x) →
      ∃ f, read User.reader text = .error f ∧ f.code = "INTERNAL_ERROR"
  /-- A list of three is read as the object is that has its items under the names of the fields. -/
  triple : ∀ id name email, v = .list [id, name, email] →
    ∀ u, read User.reader text = .ok u ↔
      Describes (.object [("id", id), ("name", name), ("email", email)]) u
  /-- A shorter list is refused. -/
  short : ∀ vs, v = .list vs → vs.length < 3 →
    ∃ f, read User.reader text = .error f ∧ f.code = "INTERNAL_ERROR"

/-- **Any text of a document is read as the user that the document describes, and refused if it
describes none**, however it is written and whatever other members it has. -/
theorem shaped {v : Value} {g t g' : List Char} (hg : Gap g) (ht : Spells v t) (hg' : Gap g') :
    Shaped v (String.ofList (g ++ (t ++ g'))) := by
  have hexact (u : User) :
      read User.reader (String.ofList (g ++ (t ++ g'))) = .ok u ↔ Describes v u :=
    ⟨fun h => describes_reads (reads_of_read hg ht hg' h),
      fun h => read_spelled (takes_described h) hg ht hg'⟩
  have hrefused (h : ∀ u, ¬ Describes v u) : ∃ f,
      read User.reader (String.ofList (g ++ (t ++ g'))) = .error f ∧ f.code = "INTERNAL_ERROR" := by
    cases hread : read User.reader (String.ofList (g ++ (t ++ g'))) with
    | error f => exact ⟨f, rfl, code_of_read hread⟩
    | ok u => exact absurd ((hexact u).1 hread) (h u)
  refine ⟨hexact, hrefused, ?_, ?_, ?_⟩
  · rintro ms rfl field hfield hspoilt
    exact hrefused fun u h => hspoilt (h.fits hfield)
  · rintro id name email rfl u
    rw [hexact u]
    constructor
    · intro h
      cases h with
      | list h => exact h
    · exact Describes.list
  · rintro vs rfl hlength
    refine hrefused fun u h => ?_
    cases h with
    | list _ => exact absurd hlength (by simp)

/-- A user among members that nobody asks for. -/
def scattered : Json :=
  .object [("email", .text "e"), ("x", .list [.flag true, .object []]), ("id", .int (-7)),
    ("x", .object [("id", .text "")]), ("name", .text "n")]

def doubled : Json :=
  .object [("id", .int 1), ("id", .int 1), ("name", .text "n"), ("email", .text "e")]

theorem shaped_scattered :
    read User.reader (String.ofList ([' '] ++ (scattered.chars ++ ['\n']))) = .ok ⟨⟨-7⟩, "n", "e"⟩ ∧
      ∃ f, read User.reader (String.ofList ([' '] ++ (doubled.chars ++ ['\n']))) = .error f ∧
        f.code = "INTERNAL_ERROR" := by
  have hblank : Gap [' '] := by simp [Gap, isGap]
  have hbreak : Gap ['\n'] := by simp [Gap, isGap]
  have hscattered := shaped hblank (spells_chars scattered) hbreak
  have hdoubled := shaped hblank (spells_chars doubled) hbreak
  refine ⟨(hscattered.exact _).2 ?_, hdoubled.refused fun u h => ?_⟩
  · have hinteger : WritesInteger (Decimal.ofInt64 (-7)).toList (Int64.toInt (-7)) := by
      rw [writesInteger_iff, Decimal.ofInt64, String.toList_ofList]
    exact .object rfl hinteger rfl rfl
  · cases h with
    | object hid _ _ _ => cases hid

end UserRegistry.Json
