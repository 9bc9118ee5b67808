import UserRegistry.Proofs.Configuration.Loading
import UserRegistry.Proofs.Layers.Guesses
import UserRegistry.Proofs.Layers.Variables
import UserRegistry.Proofs.Layers.Visits

/-!
# What a variable does to its field

A variable that alone speaks of a field decides on it, whatever the files hold, whatever the other
variables are and in whatever order all are met. What the field then holds is not the text of the
variable but what the text was taken for: `start_override`. Texts that read as a truth value or as a
number come out in their normal form, and an integer that does not fit 64 bits comes out as the
nearest one that does; all other texts are kept (`text_kept`).
-/

namespace UserRegistry.Configuration

open UserRegistry.Layers

section
variable {p : Place} {w : World} {o : Order} {l : Loader}
  (h : (Loader.start p w o).result = .ok l)
include h

/-- Loaded settings can be read, in any order, from a tree on which the variables are the last
layer. -/
theorem read_of_start : ∃ t : Tree,
    (t.putLayer (variableLayer w.vars o.overrides)).read Settings.reader = .ok l.get := by
  obtain ⟨c, hs, rfl⟩ := start_eq_ok h
  obtain ⟨t, htree, hs⟩ := Result.bind_eq_ok hs
  obtain ⟨c', hdecoded, hvalid⟩ := Result.bind_eq_ok hs
  obtain ⟨rfl, -⟩ := validated_eq_ok hvalid
  obtain ⟨t', rfl⟩ := tree_eq_ok htree
  exact ⟨t', Tree.steady_settings _ .listed _ _ _ (decoded_eq_ok hdecoded)⟩

theorem text_of_start (q : TextField) {v : String}
    (hv : Overrides.Sets w.vars q.path.1 q.path.2 v) : q.get l.get = Overrides.shown v := by
  obtain ⟨t, hread⟩ := read_of_start h
  have hat := hv.at?_putLayer q.path_mem_fields (perm_variableLayer w.vars o.overrides) t
  obtain ⟨key, htext⟩ := Tree.text_of_read hread q hat
  simp only [Format.text, Tree.readScalar, Overrides.text?_scalar] at htext
  exact (Except.ok.inj htext).symm

/-- **A variable decides on its field by what its text is taken for.** For whatever files there
are, once loading succeeds, a text field holds the normal form of the text of its variable, and the
id of the demonstration the integer that its variable writes, or the nearest bound of 64 bits. -/
theorem start_override :
    (∀ (q : TextField) (v : String), Overrides.Sets w.vars q.path.1 q.path.2 v →
      q.get l.get = Overrides.shown v) ∧
    ∀ n : Int, Overrides.Sets w.vars "demo" "id" (String.ofList (Decimal.ofInt n)) →
      l.get.demo.id.toInt = max (-9223372036854775808) (min 9223372036854775807 n) := by
  refine ⟨fun q v => text_of_start h q, fun n hn => ?_⟩
  obtain ⟨t, hread⟩ := read_of_start h
  have hat := hn.at?_putLayer (p := ("demo", "id")) (by decide)
    (perm_variableLayer w.vars o.overrides) t
  obtain ⟨hid, -⟩ := Tree.demo_of_read hread hat
  rw [hat] at hid
  simp only [valueOf, Format.int64, Tree.readScalar, Overrides.int64?_scalar_ofInt] at hid
  rw [← Except.ok.inj hid, Binary.toInt_clamp]

/-- A text that reads neither as a truth value nor as a number is kept as it is. -/
theorem text_kept (q : TextField) {v : String}
    (hv : Overrides.Sets w.vars q.path.1 q.path.2 v) (htrue : Text.lowercase v ≠ "true")
    (hfalse : Text.lowercase v ≠ "false") (hint : Decimal.int64? v.toList = none)
    (hfloat : Overrides.float? v.toList = none) : q.get l.get = v :=
  (text_of_start h q hv).trans (Overrides.shown_eq_self htrue hfalse hint hfloat)

end

/-- A place without files, where variables give a version and an id. -/
def numberedPlace : Place := ⟨"config", "development"⟩

def numberedWorld : World :=
  ⟨.empty, .ofList [("ROSTER__APP__VERSION", "1.10"), ("ROSTER__DEMO__ID", "9223372036854775808"),
    ("ROSTER__DEMO__NAME", "Li Si")]⟩

def numberedLoader : Loader :=
  ⟨numberedPlace, {
    app := { version := "1.1" }
    demo := { id := 9223372036854775807, name := "Li Si" } }⟩

theorem start_override_numbered :
    (Loader.start numberedPlace numberedWorld).result = .ok numberedLoader ∧
      numberedLoader.get.app.version = Overrides.shown "1.10" ∧
      numberedLoader.get.demo.name = Overrides.shown "Li Si" ∧
      numberedLoader.get.demo.id.toInt =
        max (-9223372036854775808) (min 9223372036854775807 9223372036854775808) := by
  have hload : (Loader.start numberedPlace numberedWorld).result = .ok numberedLoader := by
    decide +kernel
  obtain ⟨htext, hid⟩ := start_override hload
  exact ⟨hload, htext .version "1.10" (by decide +kernel),
    htext .demoName "Li Si" (by decide +kernel), hid 9223372036854775808 (by decide +kernel)⟩

/-- A version and an id in variables are altered. -/
theorem start_override_altered :
    ∃ l, (Loader.start numberedPlace numberedWorld).result = .ok l ∧
      Overrides.Sets numberedWorld.vars "app" "version" "1.10" ∧ l.get.app.version ≠ "1.10" ∧
      Overrides.Sets numberedWorld.vars "demo" "id"
        (String.ofList (Decimal.ofInt 9223372036854775808)) ∧
      l.get.demo.id.toInt ≠ 9223372036854775808 :=
  ⟨numberedLoader, by decide +kernel, by decide +kernel, by decide +kernel, by decide +kernel,
    by decide +kernel⟩

end UserRegistry.Configuration
