import UserRegistry.Proofs.Json.Shapes

/-!
# Reading back written documents

What the writer puts down for a user is what the reader takes (`read_user`): a written document is
one of the texts of what it says, and all of these are read alike. It holds no control character
(`visible_chars`), so that it stands on one line.
-/

namespace UserRegistry.Json

/-! ## No controls -/

/-- No character of a text is a control, and so none ends a line. -/
def Visible (s : List Char) : Prop :=
  ∀ d ∈ s, 32 ≤ d.toNat

theorem Visible.append {s t : List Char} (hs : Visible s) (ht : Visible t) : Visible (s ++ t) := by
  intro d hd
  rcases List.mem_append.mp hd with h | h
  · exact hs d h
  · exact ht d h

theorem Visible.cons {c : Char} {s : List Char} (hc : 32 ≤ c.toNat) (hs : Visible s) :
    Visible (c :: s) := by
  intro d hd
  rcases List.mem_cons.mp hd with rfl | h
  · exact hc
  · exact hs d h

theorem Visible.notMem_feed {s : List Char} (h : Visible s) : '\n' ∉ s := fun hmem =>
  absurd (h _ hmem) (by decide)

theorem visible_escapedChar (c : Char) : Visible (escapedChar c) := by
  intro d h
  have hdigits : ∀ m < 16, 32 ≤ (Nat.digitChar m).toNat := by decide
  have hfixed : ∀ x ∈ ['\\', '"', 'b', 't', 'n', 'f', 'r'], 32 ≤ x.toNat := by
    simp
  unfold escapedChar at h
  iterate 7
    split at h
    · exact hfixed d (by grind)
  split at h
  · rename_i hc
    simp only [List.mem_cons, List.not_mem_nil, or_false] at h
    rcases h with rfl | rfl | rfl | rfl | rfl | rfl
    · decide
    · decide
    · decide
    · decide
    · exact hdigits _ (by omega)
    · exact hdigits _ (by omega)
  · rename_i hc
    obtain rfl := List.mem_singleton.mp h
    omega

theorem visible_quote (s : String) : Visible (quote s) := by
  have hbody : Visible (s.toList.flatMap escapedChar) := by
    intro d hd
    obtain ⟨c, -, hc⟩ := List.mem_flatMap.mp hd
    exact visible_escapedChar c d hc
  exact ((hbody.append (Visible.cons (by decide) (by simp [Visible]))).cons (by decide))

theorem visible_ofInt64 (i : Int64) : Visible (Decimal.ofInt64 i).toList := by
  have hdigits (n : Nat) : Visible (Decimal.ofNat n) := by
    intro d hd
    have hd := Decimal.isDigit_of_mem_ofNat hd
    simp only [Text.isDigit, Bool.and_eq_true, decide_eq_true_eq, Char.le_def,
      UInt32.le_iff_toNat_le] at hd
    have hzero : '0'.val.toNat = 48 := rfl
    have hval : d.val.toNat = d.toNat := rfl
    omega
  rw [Decimal.ofInt64, String.toList_ofList, Decimal.ofInt]
  split
  · exact (hdigits _).cons (by decide)
  · exact hdigits _

/-- **A written document holds no control character**, and so it stands on one line. -/
theorem visible_chars (j : Json) : Visible j.chars := by
  induction j using chars.induct
    (motive_2 := fun ms => Visible (memberChars ms)) (motive_3 := fun xs => Visible (itemChars xs))
    with
  | case1 b => cases b <;> simp [chars, flagWord, Visible]
  | case2 i => exact visible_ofInt64 i
  | case3 s => exact visible_quote s
  | case4 xs ih => exact (ih.append (by simp [Visible])).cons (by decide)
  | case5 ms ih => exact (ih.append (by simp [Visible])).cons (by decide)
  | case6 => simp [itemChars, Visible]
  | case7 x ih => exact ih
  | case8 x y xs ihx ihxs => exact ihx.append (ihxs.cons (by decide))
  | case9 => simp [memberChars, Visible]
  | case10 k v ih => exact (visible_quote k).append (ih.cons (by decide))
  | case11 k v m ms ihv ihms =>
    exact (((visible_quote k).append (ihv.cons (by decide))).append (ihms.cons (by decide)))

/-! ## Users -/

/-- A written user starts with its id. -/
theorem chars_user (u : User) : u.toJson.chars = "\x7b\"id\":".toList ++ (u.id.toJson.chars ++
    ',' :: (memberChars [("name", .text u.name), ("email", .text u.email)] ++ ['\x7d'])) := by
  simp only [User.toJson, chars, memberChars, List.append_assoc, List.cons_append]
  rfl

theorem takes_user (u : User) : Takes User.reader u.toJson.value u := by
  have hinteger : WritesInteger (Decimal.ofInt64 u.id.value).toList u.id.value.toInt := by
    rw [writesInteger_iff, Decimal.ofInt64, String.toList_ofList]
  exact takes_described (.object rfl hinteger rfl rfl)

/-- **A written user is read back**, whatever its id, name and email are. -/
theorem read_user (u : User) : read User.reader u.toJson.render = .ok u := by
  have hread := read_spelled (takes_user u) .nil (spells_chars u.toJson) .nil
  rwa [List.nil_append, List.append_nil] at hread

/-- Different users have different documents. -/
theorem render_injective {u v : User} (h : u.toJson.render = v.toJson.render) : u = v := by
  have hread := read_user u
  rw [h, read_user v] at hread
  exact (Except.ok.inj hread).symm

/-- The document of the user that a text is read as. -/
def rewritten (text : String) : Result String :=
  (read User.reader text).map fun u => u.toJson.render

/-- **Users and their documents are the same thing.** Every user has a document without controls
that is read back as this user and no other. A text that is read as a user may be written in many
ways; writing it anew gives the document of that user, and writing that anew changes nothing. -/
theorem document_roundTrip :
    (∀ u : User, (∀ c ∈ u.toJson.render.toList, 0x20 ≤ c.toNat) ∧
      read User.reader u.toJson.render = .ok u) ∧
    (∀ u v : User, u.toJson.render = v.toJson.render → u = v) ∧
    ∀ (text : String) (u : User), read User.reader text = .ok u →
      rewritten text = .ok u.toJson.render ∧ read User.reader u.toJson.render = .ok u ∧
        rewritten u.toJson.render = .ok u.toJson.render := by
  have hrewritten {text : String} {u : User} (h : read User.reader text = .ok u) :
      rewritten text = .ok u.toJson.render := by
    rw [rewritten, h]
    rfl
  refine ⟨fun u => ⟨?_, read_user u⟩, fun u v => render_injective, fun text u h => ?_⟩
  · rw [render, String.toList_ofList]
    exact visible_chars u.toJson
  · exact ⟨hrewritten h, read_user u, hrewritten (read_user u)⟩

/-- A user with the least of all ids, in a text with blanks, a further member and escapes for
characters within and beyond sixteen bits. -/
def looseText : String :=
  " \x7b\"email\":\"\\u2028\\/\\ud83d\\ude00\" ,\n\"tags\":[1,\x7b\x7d]," ++
    "\"id\":-9223372036854775808,\"name\":\"a\\\"\\u0001\\n\"\x7d\n"

def looseUser : User :=
  ⟨⟨-9223372036854775808⟩, "a\"\x01\n", "\u2028/😀"⟩

theorem document_roundTrip_loose :
    read User.reader looseText = .ok looseUser ∧ rewritten looseText = .ok looseUser.toJson.render ∧
      rewritten looseUser.toJson.render = .ok looseUser.toJson.render := by
  have hread : read User.reader looseText = .ok looseUser := by decide +kernel
  obtain ⟨hrewritten, -, hagain⟩ := document_roundTrip.2.2 looseText looseUser hread
  exact ⟨hread, hrewritten, hagain⟩

end UserRegistry.Json
