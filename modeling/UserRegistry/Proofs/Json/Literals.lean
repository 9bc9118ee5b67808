import UserRegistry.Proofs.Json.RoundTrip

/-!
# Ids as they are written

An id is read from a number of a document only if the number is an integer of 64 bits in plain
decimal, and then it is that integer. Every other number is refused: one that is too large in
either direction is not wrapped, clamped or rounded, and one with a point or a power of ten is not
read for what it is worth (`ExactOrRefused`).

The readers decide this by one fact about the digits, that an id is read from a number exactly if
the number is written as that id is (`exactOrRefused`). It holds of an id alone and of the id of a
user among any other members.
-/

namespace UserRegistry

namespace Decimal

def Fits (n : Int) : Prop :=
  -9223372036854775808 ≤ n ∧ n ≤ 9223372036854775807

instance (n : Int) : Decidable (Fits n) :=
  inferInstanceAs (Decidable (_ ∧ _))

theorem toInt_ofInt_of_fits {n : Int} (h : Fits n) : (Int64.ofInt n).toInt = n := by
  obtain ⟨hle, hlt⟩ := h
  exact Int64.toInt_ofInt_of_le (by omega) (by omega)

/-- No integer is written like one of 64 bits that it is not. -/
theorem eq_of_ofInt {n : Int} {i : Int64} (h : ofInt n = ofInt i.toInt) : n = i.toInt := by
  have hfit := int64?_ofInt n
  rw [h, int64?_ofInt, fit?_toInt] at hfit
  exact (toInt_of_fit? hfit.symm).symm

/-- An integer is written with digits and a sign. -/
theorem notMem_ofInt {c : Char} (hc : c ∈ ['.', 'e', 'E']) (n : Int) : c ∉ ofInt n := by
  have hother : ∀ d ∈ ['.', 'e', 'E'], d ≠ '-' ∧ Text.isDigit d = false := by
    simp [Text.isDigit]
  obtain ⟨hminus, hdigit⟩ := hother c hc
  intro h
  rcases mem_ofInt h with rfl | h
  · exact hminus rfl
  · rw [hdigit] at h
    cases h

end Decimal

namespace Json

open Keyed (under)

/-- A text is refused, with a failure that a caller cannot mend. -/
def Refused (answer : Result α) : Prop :=
  ∃ f, answer = .error f ∧ f.code = "INTERNAL_ERROR"

/-- The id that is answered for the number `w` is the integer that `w` writes, or there is none. -/
structure ExactOrRefused (w : List Char) (answer : Result UserId) : Prop where
  /-- An integer of 64 bits is read as itself, and is written in the same digits again. -/
  exact : ∀ n, w = Decimal.ofInt n → Decimal.Fits n →
    ∃ id : UserId, answer = .ok id ∧ id.value.toInt = n ∧ id.toJson.chars = w
  /-- An integer beyond 64 bits is refused, however many digits it has. -/
  beyond : ∀ n, w = Decimal.ofInt n → ¬ Decimal.Fits n → Refused answer
  /-- A number with a point or a power of ten is refused, whatever it is worth. -/
  broken : '.' ∈ w ∨ 'e' ∈ w ∨ 'E' ∈ w → Refused answer
  /-- Nothing is read but the integer that is written. -/
  only : ∀ id, answer = .ok id → w = Decimal.ofInt id.value.toInt

theorem chars_id (id : UserId) : id.toJson.chars = Decimal.ofInt id.value.toInt :=
  String.toList_ofList

theorem exactOrRefused {w : List Char} {answer : Result UserId}
    (hread : ∀ id, answer = .ok id ↔ w = Decimal.ofInt id.value.toInt)
    (hcode : ∀ f, answer = .error f → f.code = "INTERNAL_ERROR") : ExactOrRefused w answer := by
  have hrefused (hnone : ∀ id : UserId, w ≠ Decimal.ofInt id.value.toInt) : Refused answer := by
    cases h : answer with
    | error f => exact ⟨f, rfl, hcode f h⟩
    | ok id => exact absurd ((hread id).1 h) (hnone id)
  refine ⟨?_, ?_, fun hbroken => hrefused ?_, fun id h => (hread id).1 h⟩
  · rintro n rfl hn
    have hvalue := Decimal.toInt_ofInt_of_fits hn
    exact ⟨⟨Int64.ofInt n⟩, (hread _).2 (by rw [hvalue]), hvalue, by rw [chars_id, hvalue]⟩
  · rintro n rfl hn
    refine hrefused fun id h => hn ?_
    rw [Decimal.eq_of_ofInt h]
    exact ⟨id.value.le_toInt, by have := id.value.toInt_lt; omega⟩
  · rintro id rfl
    rcases hbroken with h | h | h <;> exact Decimal.notMem_ofInt (by simp) _ h

section
variable {w g g' : List Char} (hg : Gap g) (hg' : Gap g')
include hg hg'

theorem read_id_iff (hw : IsNumber w) (id : UserId) :
    read UserId.reader (String.ofList (g ++ (w ++ g'))) = .ok id ↔
      w = Decimal.ofInt id.value.toInt := by
  constructor
  · intro h
    obtain ⟨w', hnumber, hwrites⟩ := reads_id (reads_of_read hg (.number hw) hg' h)
    obtain rfl := Value.number.inj hnumber
    exact writesInteger_iff.1 hwrites
  · rintro rfl
    exact read_spelled (takes_id ⟨id, "", ""⟩) hg (.number hw) hg'

variable {ms : List (String × Value)} {t : List Char} {name email : String}

theorem read_user_id_iff (ht : Spells (.object ms) t) (hid : under "id" ms = [.number w])
    (hname : under "name" ms = [.text name]) (hemail : under "email" ms = [.text email])
    (id : UserId) :
    (read User.reader (String.ofList (g ++ (t ++ g')))).map User.id = .ok id ↔
      w = Decimal.ofInt id.value.toInt := by
  constructor
  · intro h
    obtain ⟨u, hread, rfl⟩ := Result.map_eq_ok h
    cases describes_reads (reads_of_read hg ht hg' hread) with
    | object hid' hinteger _ _ =>
      rw [hid] at hid'
      obtain rfl := Value.number.inj (List.cons.inj hid').1
      exact writesInteger_iff.1 hinteger
  · intro h
    have hdescribes : Describes (.object ms) ⟨id, name, email⟩ :=
      .object hid (writesInteger_iff.2 h) hname hemail
    rw [read_spelled (takes_described hdescribes) hg ht hg']
    rfl

end

/-- **A number is read as the id that it writes, or refused**, when it stands alone and when it is
the id of a user, in any object that gives a name and an email address beside it. -/
theorem id_exact {w : List Char} (hw : IsNumber w) :
    (∀ {g g' : List Char}, Gap g → Gap g' →
      ExactOrRefused w (read UserId.reader (String.ofList (g ++ (w ++ g'))))) ∧
    (∀ {g g' t : List Char} {ms : List (String × Value)} {name email : String}, Gap g → Gap g' →
      Spells (.object ms) t → under "id" ms = [.number w] → under "name" ms = [.text name] →
      under "email" ms = [.text email] →
      ExactOrRefused w ((read User.reader (String.ofList (g ++ (t ++ g')))).map User.id)) ∧
    ∀ u : User, u.toJson.chars = "\x7b\"id\":".toList ++ (u.id.toJson.chars ++
      ',' :: (memberChars [("name", .text u.name), ("email", .text u.email)] ++ ['\x7d'])) := by
  refine ⟨fun hg hg' => ?_, fun {g g' t} _ _ _ hg hg' ht hid hname hemail => ?_, chars_user⟩
  · exact exactOrRefused (read_id_iff hg hg' hw) fun f => code_of_read
  · exact exactOrRefused (read_user_id_iff hg hg' ht hid hname hemail) fun f h =>
      code_of_read (Result.map_eq_error h)

/-- The ids at both ends of their range are read and the integers next to them are not, nor is one
that is written with a point. In a user an id is read among other members. -/
theorem id_exact_ends :
    (∀ n ∈ [-9223372036854775808, 9223372036854775807], ∃ id : UserId,
      read UserId.reader (String.ofList ([] ++ (Decimal.ofInt n ++ []))) = .ok id ∧
        id.value.toInt = n ∧ id.toJson.chars = Decimal.ofInt n) ∧
    (∀ n ∈ [-9223372036854775809, 9223372036854775808, 18446744073709551616],
      Refused (read UserId.reader (String.ofList ([] ++ (Decimal.ofInt n ++ []))))) ∧
    Refused (read UserId.reader (String.ofList ([' '] ++ (['1', '.', '0'] ++ ['\n'])))) ∧
    ∃ id : UserId, (read User.reader (String.ofList ([' '] ++ (scattered.chars ++ ['\n'])))).map
      User.id = .ok id ∧ id.value.toInt = -7 ∧ id.toJson.chars = Decimal.ofInt (-7) := by
  have hblank : Gap [' '] := by simp [Gap, isGap]
  have hbreak : Gap ['\n'] := by simp [Gap, isGap]
  have hone : IsWhole ['1'] := ⟨⟨by simp, by simp [Text.isDigit]⟩, by simp⟩
  have htenths : IsFraction ['.', '0'] := .some ⟨by simp, by simp [Text.isDigit]⟩
  have hpoint : IsNumber ['1', '.', '0'] := .positive (.mk hone htenths .none)
  refine ⟨fun n hn => ?_, fun n hn => ?_, ?_, ?_⟩
  · refine ((id_exact (isNumber_ofInt n)).1 .nil .nil).exact n rfl ?_
    revert n
    decide
  · refine ((id_exact (isNumber_ofInt n)).1 .nil .nil).beyond n rfl ?_
    revert n
    decide
  · exact ((id_exact hpoint).1 hblank hbreak).broken (.inl (by simp))
  · exact ((id_exact (isNumber_ofInt (-7))).2.1 hblank hbreak (spells_chars scattered) (by rfl) rfl
      rfl).exact (-7) rfl (by decide)

end Json

end UserRegistry
