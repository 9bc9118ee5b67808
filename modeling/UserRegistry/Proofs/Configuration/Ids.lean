import UserRegistry.Proofs.Configuration.Precedence
import UserRegistry.Proofs.Layers.Guesses
import UserRegistry.Proofs.Layers.Writes
import UserRegistry.Proofs.Program.Outcome
import UserRegistry.Proofs.Toml.Integers

/-!
# The id of the demonstration on its way

The id of the demonstration may be given in any of the three files, as an integer or as a text in
decimal, or by its variable (`GivenId`). On every way it goes through trees that also hold texts and
floating-point numbers, is read as an integer of 64 bits, passes through a service and is written
twice. Nothing is lost on the way: `id_survives`.

Loading can fail for what else there is. `Place.otherwise` is what is loaded where nothing is said
of the id, and the settings are these with the id in them, or loading fails for that. All this holds
in every order of a load: where a document says several things of the id, that order settles which
of them is the last word.

A file counts only if its name has something before the ending. An id in the file of an environment
without a name is lost (`id_lost_unnamed`).
-/

namespace UserRegistry

def Settings.withId (n : Int64) (c : Settings) : Settings :=
  { c with demo := { c.demo with id := n } }

def Settings.withBackend (b : Backend) (c : Settings) : Settings :=
  { c with service := ⟨b⟩ }

namespace Layers.Tree

/-! ## Leaving out a field -/

def dropMember (name : String) : Tree → Tree
  | table o ms => table o (Keyed.remove name ms)
  | t => t

/-- A tree that says nothing of a field. -/
def without (s f : String) (t : Tree) : Tree :=
  changeMember s empty (dropMember f) t

theorem member?_dropMember (n : String) (t : Tree) (k : String) :
    (dropMember n t).member? k = if k = n then none else t.member? k := by
  cases t with
  | table o ms => exact Keyed.lookup_remove n ms k
  | scalar o v => simp [dropMember, member?, members]
  | list o ts => simp [dropMember, member?, members]

theorem at?_without (s f : String) (t : Tree) (k : String) :
    (without s f t).at? s k = if k = f then none else t.at? s k := by
  rw [at?, without, member?_changeMember, if_pos rfl, Option.bind_some, member?_dropMember, at?]
  cases t.member? s <;> rfl

/-- **The id can be left out while the rest is read**, where it is there and can be read. -/
theorem read_without {t : Tree} {o : Option String} {x : Scalar} {n : Int64}
    (hat : t.at? "demo" "id" = some (.scalar o x)) (hx : int64? x = some n) :
    t.read Settings.reader =
      ((t.without "demo" "id").read Settings.reader).map (Settings.withId n) := by
  obtain ⟨ht, hsection⟩ := isTable_of_at? hat
  have ht' : (t.without "demo" "id").isTable = true := isTable_changeMember ..
  have hsection' : ∀ y, (t.without "demo" "id").member? "demo" = some y → y.isTable = true := by
    intro y hy
    rw [without, member?_changeMember, if_pos rfl] at hy
    obtain rfl := Option.some.inj hy
    cases hdemo : t.member? "demo" with
    | none => rfl
    | some y =>
      cases y with
      | table o ms => rfl
      | scalar o v => cases hsection _ hdemo
      | list o ts => cases hsection _ hdemo
  have hother {k : String} (hk : k ≠ "demo") : (t.without "demo" "id").member? k = t.member? k := by
    rw [without, member?_changeMember, if_neg hk]
  have hname : "name" ≠ "id" ∧ "email" ≠ "id" := by decide
  have hid : valueOf (some (.scalar o x)) "demo.id" Format.int64 1 = .ok n := by
    simp only [valueOf, Format.int64, readScalar, hx]
  rw [read_table ht, read_table ht', valueOf_demo hsection, valueOf_demo hsection',
    hother (by decide), hother (by decide), hother (by decide)]
  simp only [at?_without, if_true, if_neg hname.1, if_neg hname.2, hat, hid, Result.map_of_bind,
    bind_assoc]
  rfl

end Layers.Tree

namespace Configuration

open UserRegistry.Layers

/-! ## Giving the id -/

/-- Whether a value of a document is an integer, or its text in decimal. -/
def standsFor (n : Int64) : Toml.Value → Bool
  | .int i => i == n
  | .text s => s == Decimal.ofInt64 n
  | _ => false

/-- The last that a document says of the id is an integer, at the id itself. -/
def GivesId (d : Toml.Value) (n : Int64) : Prop :=
  (lastWord "demo" "id" (writes d)).any (fun w =>
    w.1.map Layers.Step.lower == [.name "demo", .name "id"] && standsFor n w.2) = true

instance (d : Toml.Value) (n : Int64) : Decidable (GivesId d n) :=
  inferInstanceAs (Decidable (_ = true))

/-- The files that are read for several names. -/
def Place.sourcesOf (p : Place) (files : Folder) (names : List String) : List Source :=
  ((names.map p.path).filter files.contains).filterMap (source? files)

/-- A document says nothing of the id: it has nothing at it or below it, and nothing but a table for
its section. -/
def SilentOnId (d : Toml.Value) : Prop :=
  lastWord "demo" "id" (writes d) = none

instance (d : Toml.Value) : Decidable (SilentOnId d) :=
  inferInstanceAs (Decidable (_ = none))

/-- An integer is given as the id, in a file or by the variable, and nothing of more weight says
anything of the id. The file of the environment has to have a name. A file gives what it gives in
the order that the load has for it, which is known by the number of the files before it. -/
inductive GivenId (p : Place) (w : World) (n : Int64) (o : Order := .listed) : Prop
  | inFile {before after : List String} {name : String} {d : Toml.Value}
    (hname : ["default", p.environment, "local"] = before ++ name :: after)
    (hnamed : name = p.environment → p.isNamed = true)
    (hd : Holds w.files (p.path name) (some d))
    (hgives : GivesId (d.inOrder (o.documents (p.sourcesOf w.files before).length)) n)
    (hlater : ∀ later ∈ after, ∀ s ∈ source? w.files (p.path later), ∀ d' ∈ Toml.parse s.text,
      SilentOnId d')
    (hvars : ∀ e ∈ w.vars.entries, Overrides.addresses "demo" "id" e.1 = false)
  | inVariable (h : Overrides.Sets w.vars "demo" "id" (Decimal.ofInt64 n))

/-- What a tree has for the id is read as an integer. -/
def HoldsId (t : Tree) (n : Int64) : Prop :=
  ∃ o x, t.at? "demo" "id" = some (.scalar o x) ∧ Tree.int64? x = some n

theorem GivesId.holds {d : Toml.Value} {n : Int64} (h : GivesId d n) (origin : String) (t : Tree) :
    HoldsId (t.putLayer (Tree.layerOfToml origin d)) n := by
  obtain ⟨w, hw, hboth⟩ := (Option.any_eq_true _ _).1 h
  obtain ⟨path, v⟩ := w
  obtain ⟨hpath, hv⟩ := Bool.and_eq_true_iff.1 hboth
  have hgiven := (settled_putLayer origin d t).given path v hw (eq_of_beq hpath)
  cases v with
  | int i =>
    obtain rfl : i = n := eq_of_beq hv
    exact ⟨some origin, .int i, hgiven rfl, rfl⟩
  | text s =>
    obtain rfl : s = Decimal.ofInt64 n := eq_of_beq hv
    exact ⟨some origin, .text (Decimal.ofInt64 n), hgiven rfl,
      (Overrides.int64?_text_ofInt n.toInt).trans (Decimal.fit?_toInt n)⟩
  | _ => cases hv

/-! ## The files one by one -/

theorem putSources_append (t : Tree) (ss ss' : List Source) (ranks : Nat → Ranks) :
    putSources t (ss ++ ss') ranks = (putSources t ss ranks).bind fun t =>
      putSources t ss' fun i => ranks (ss.length + i) := by
  induction ss generalizing t ranks with
  | nil =>
    have hranks : (fun i => ranks (([] : List Source).length + i)) = ranks :=
      funext fun i => congrArg ranks (Nat.zero_add i)
    rw [hranks]
    rfl
  | cons s ss ih =>
    have hranks (i : Nat) : (s :: ss).length + i = ss.length + i + 1 := by
      rw [List.length_cons]
      omega
    rw [List.cons_append, putSources, putSources]
    cases layerOf s with
    | error f => rfl
    | ok layer =>
      simp only [hranks]
      exact ih _ _

/-- A document is silent in every order. -/
theorem SilentOnId.inOrder {d : Toml.Value} (h : SilentOnId d) (r : Ranks) :
    SilentOnId (d.inOrder r) := by
  rw [SilentOnId, lastWord_eq_none_iff] at h ⊢
  intro w hw
  obtain ⟨v, hv⟩ := exists_of_mem_writes_inOrder hw
  exact h (w.1, v) hv

/-- Files that say nothing of the id leave it. -/
theorem HoldsId.putSources {n : Int64} {ss : List Source}
    (hsilent : ∀ s ∈ ss, ∀ d ∈ Toml.parse s.text, SilentOnId d) {t t' : Tree} (h : HoldsId t n)
    {ranks : Nat → Ranks} (hput : putSources t ss ranks = .ok t') : HoldsId t' n := by
  induction ss generalizing t ranks with
  | nil =>
    obtain rfl := Except.ok.inj hput
    exact h
  | cons s ss ih =>
    simp only [Configuration.putSources, layerOf] at hput
    cases hparse : Toml.parse s.text with
    | none =>
      rw [hparse] at hput
      cases hput
    | some d =>
      rw [hparse] at hput
      refine ih (fun s' hs' => hsilent s' (List.mem_cons_of_mem _ hs')) ?_ hput
      obtain ⟨o, x, hat, hx⟩ := h
      have hleft := (settled_putLayer s.origin (d.inOrder (ranks 0)) t).silent
        ((hsilent s (List.mem_cons_self ..) d hparse).inOrder (ranks 0))
      rw [Tree.arrangedLayer_ofToml]
      exact ⟨o, x, hleft.trans hat, hx⟩

theorem Place.sourcesOf_append (p : Place) (files : Folder) (names names' : List String) :
    p.sourcesOf files (names ++ names') = p.sourcesOf files names ++ p.sourcesOf files names' := by
  simp [Place.sourcesOf]

theorem Place.mem_sourcesOf {p : Place} {files : Folder} {names : List String} {s : Source}
    (h : s ∈ p.sourcesOf files names) : ∃ name ∈ names, s ∈ source? files (p.path name) := by
  obtain ⟨path, hpath, hs⟩ := List.mem_filterMap.1 h
  obtain ⟨name, hname, rfl⟩ := List.mem_map.1 (List.mem_of_mem_filter hpath)
  exact ⟨name, hname, hs⟩

/-- A file with a document counts unless it is that of an environment without a name. -/
theorem Place.hasName {p : Place} {name : String} (h : name ∈ ["default", p.environment, "local"])
    (hnamed : name = p.environment → p.isNamed = true) :
    (Text.lastPart '/' name.toList).isEmpty = false := by
  simp only [List.mem_cons, List.not_mem_nil, or_false] at h
  rcases h with rfl | rfl | rfl
  · decide
  · have hstem := hnamed rfl
    rw [p.isNamed_eq] at hstem
    simpa using hstem
  · decide

/-- A file gives the id, and the files after it leave it. -/
theorem GivesId.putSources {p : Place} {files : Folder} {n : Int64} {before after : List String}
    {name : String} {d : Toml.Value} {ranks : Nat → Ranks}
    (hgives : GivesId (d.inOrder (ranks (p.sourcesOf files before).length)) n)
    (hname : ["default", p.environment, "local"] = before ++ name :: after)
    (hnamed : name = p.environment → p.isNamed = true) (hd : Holds files (p.path name) (some d))
    (hlater : ∀ later ∈ after, ∀ s ∈ source? files (p.path later), ∀ d' ∈ Toml.parse s.text,
      SilentOnId d') {t t' : Tree}
    (hput : Configuration.putSources t
      (p.sourcesOf files ["default", p.environment, "local"]) ranks = .ok t') : HoldsId t' n := by
  have hmem : name ∈ ["default", p.environment, "local"] := by simp [hname]
  obtain ⟨x, hx, hlast⟩ := p.path_toml name
  rw [hname, p.sourcesOf_append, putSources_append] at hput
  obtain ⟨t₀, -, hput⟩ := Result.bind_eq_ok hput
  have hread : some d = counted (!(Text.lastPart '/' x.toList).isEmpty) (some d) := by
    rw [hlast, Place.hasName hmem hnamed]
    rfl
  have hfirst := putSources_cons hx hd t₀ (after.map p.path)
    (fun i => ranks ((p.sourcesOf files before).length + i)) hread
  refine (hgives.holds (originOf (p.path name)) t₀).putSources (fun s hs => ?_)
    (hfirst.symm.trans hput)
  obtain ⟨later, hlaterMem, hsource⟩ := Place.mem_sourcesOf hs
  exact hlater later hlaterMem s hsource

/-- Variables for other fields leave the id. -/
theorem HoldsId.putLayer {n : Int64} {t : Tree} (h : HoldsId t n) {vs : Variables}
    (hvars : ∀ e ∈ vs.entries, Overrides.addresses "demo" "id" e.1 = false) (r : Ranks) :
    HoldsId (t.putLayer (variableLayer vs r)) n := by
  obtain ⟨o, x, hat, hx⟩ := h
  refine ⟨o, x, ?_, hx⟩
  rw [Tree.at?_putLayer_of_not_reaches, hat]
  intro m hm
  obtain ⟨e, he, hm⟩ := Overrides.exists_of_mem_layer ((perm_variableLayer vs r).mem_iff.1 hm)
  exact Overrides.not_reaches_of_not_addresses (hvars e he) hm

/-- **The tree holds the id that is given**, on every way. -/
theorem GivenId.holds {p : Place} {w : World} {n : Int64} {o : Order} (h : GivenId p w n o)
    {t : Tree} (ht : tree p.environment (p.sources w.files) w.vars o = .ok t) : HoldsId t n := by
  obtain ⟨t', hput, rfl⟩ := Result.map_eq_ok ht
  cases h with
  | inVariable h =>
    have hat := h.at?_putLayer (p := ("demo", "id")) (by decide)
      (perm_variableLayer w.vars o.overrides) t'
    refine ⟨_, _, hat, ?_⟩
    rw [Decimal.ofInt64, Overrides.scalar_ofInt, Decimal.fit?_toInt]
    rfl
  | inFile hname hnamed hd hgives hlater hvars =>
    exact (hgives.putSources hname hnamed hd hlater hput).putLayer hvars o.overrides

/-! ## Loading -/

/-- What is loaded where nothing is said of the id. -/
def Place.otherwise (p : Place) (w : World) (o : Order := .listed) : Result Settings :=
  (tree p.environment (p.sources w.files) w.vars o).bind fun t =>
    (decoded (t.without "demo" "id") o.settings).bind validated

/-- A tree that has the id holds the settings of the tree without it, with the id in them. -/
theorem HoldsId.decoded {t : Tree} {n : Int64} (h : HoldsId t n) :
    (decoded t).bind validated =
      ((Configuration.decoded (t.without "demo" "id")).bind validated).map (Settings.withId n) := by
  obtain ⟨o, x, hat, hx⟩ := h
  show ((t.read Settings.reader).mapError unfit).bind validated = _
  rw [Tree.read_without hat hx, validated_map (Settings.withId n) fun _ => rfl]
  rfl

theorem GivenId.settings {p : Place} {w : World} {n : Int64} {o : Order} (h : GivenId p w n o) :
    SameEnd (p.settings w o) ((p.otherwise w o).map (Settings.withId n)) ∧
      (o.settings = .listed → p.settings w o = (p.otherwise w o).map (Settings.withId n)) := by
  unfold Place.settings Configuration.settings Place.otherwise
  cases ht : tree p.environment (p.sources w.files) w.vars o with
  | error f => exact ⟨.refl _, fun _ => rfl⟩
  | ok t =>
    have hlisted := (h.holds ht).decoded
    refine ⟨?_, fun hsettings => ?_⟩
    · refine ((decoded_anyOrder (.refl _) o.settings .listed).bind validated).trans ?_
      rw [hlisted]
      exact ((decoded_anyOrder (.refl _) .listed o.settings).bind validated).map _
    · simp only [Except.bind, hsettings]
      exact hlisted

/-! ## What is shown of the id -/

/-- A record has an id and shows it, in its text and in its document, as an integer in decimal, from
which it is read back. -/
structure ShowsId (n : Int64) (u : User) : Prop where
  id : u.id.value = n
  text : u.text =
    "\x7bID:" ++ Decimal.ofInt64 n ++ " Name:" ++ u.name ++ " Email:" ++ u.email ++ "\x7d"
  document : u.toJson.chars = "\x7b\"id\":".toList ++ ((Decimal.ofInt64 n).toList ++ ',' ::
    (Json.memberChars [("name", .text u.name), ("email", .text u.email)] ++ ['\x7d']))
  decimal : Decimal.int64? (Decimal.ofInt64 n).toList = some n
  readBack : Json.read User.reader u.toJson.render = .ok u

theorem showsId (u : User) : ShowsId u.id.value u where
  id := rfl
  text := rfl
  document := Json.chars_user u
  decimal := by
    rw [Decimal.ofInt64, String.toList_ofList, Decimal.int64?_ofInt, Decimal.fit?_toInt]
  readBack := Json.read_user u

/-- A record is found that shows an id. -/
def FindsId (n : Int64) (answer : Result User) : Prop :=
  ∃ u, answer = .ok u ∧ ShowsId n u

/-- The demonstration finds the configured id, whatever keeps the users. -/
theorem findsId_run (c : Settings) : FindsId c.demo.id (Application.run (some c)).result := by
  have hid : (Program.foundUser c).id.value = c.demo.id := by
    unfold Program.foundUser
    cases c.service.backend <;> rfl
  rw [← hid]
  exact ⟨_, Program.run_application c, showsId _⟩

/-! ## The whole way -/

theorem givesId_section {n : Int64} {v : Toml.Value} (h : standsFor n v = true) :
    ∀ r, GivesId (Toml.Value.inOrder r (.table [("demo", .table [("id", v)])])) n := by
  intro r
  have horder : Toml.Value.inOrder r (.table [("demo", .table [("id", v)])]) =
      .table [("demo", .table [("id", v)])] := by
    cases v with
    | int i => rfl
    | text s => rfl
    | _ => cases h
  have hwrites : writes (.table [("demo", .table [("id", v)])]) =
      [([.name "demo", .name "id"], v)] := by
    have hsection : Layers.Step.ofText "demo" = [.name "demo"] := by decide
    simp [writes, writesOf, Toml.Value.members, hsection]
  have hpath : ([.name "demo", .name "id"] : List Layers.Step).map Layers.Step.lower =
      [.name "demo", .name "id"] := by decide
  have hreaches : Tree.reaches "demo" "id" [.name "demo", .name "id"] = true := by decide
  rw [horder, GivesId, hwrites, lastWord_singleton, if_pos hreaches, Option.any_some, hpath, h]
  rfl

theorem standsFor_spelling {n : Int64} {x : List Char × Toml.Value} (hx : x ∈ Toml.spellings n) :
    standsFor n x.2 = true := by
  rcases List.mem_cons.1 hx with rfl | hx
  · exact beq_self_eq_true n
  · obtain rfl := List.mem_singleton.1 hx
    exact beq_self_eq_true (Decimal.ofInt64 n)

/-- What becomes of an id that is given. -/
structure Survives (p : Place) (w : World) (n : Int64) (o : Order := .listed) : Prop where
  /-- Where the rest can be loaded, the settings are loaded with the id in them. -/
  loaded : ∀ c, p.otherwise w o = .ok c → ∃ l, (Loader.start p w o).result = .ok l ∧
    l.get = c.withId n ∧ l.get.demo.id = n
  /-- Where the rest cannot be loaded, loading fails for that; of several values that do not fit
  another may be told, unless they are met in the order of their fields. -/
  failed : ∀ f, p.otherwise w o = .error f → SameEnd (Loader.start p w o).result (.error f) ∧
    (o.settings = .listed → (Loader.start p w o).result = .error f)
  /-- The demonstration finds a record with the id, whatever keeps the users. -/
  shown : ∀ l, (Loader.start p w o).result = .ok l →
    FindsId n (Application.run (some l.get)).result ∧
      ∀ b, FindsId n (Application.run (some (l.get.withBackend b))).result

/-- **An id that is given survives.** Every integer of 64 bits can be given so: a document with the
integer in decimal, with quotes or without, gives it in every order. -/
theorem id_survives {p : Place} {w : World} {n : Int64} {o : Order} (h : GivenId p w n o) :
    Survives p w n o ∧ ∀ x ∈ Toml.spellings n, ∃ d,
      Toml.parse (Toml.idDocument x.1) = some d ∧ ∀ r, GivesId (d.inOrder r) n := by
  obtain ⟨hend, hlisted⟩ := h.settings
  refine ⟨⟨fun c hc => ?_, fun f hf => ?_, fun l hl => ?_⟩, fun x hx => ?_⟩
  · have hsettings := (hend.eq_ok_iff (c.withId n)).2 (by rw [hc]; rfl)
    exact ⟨⟨p, c.withId n⟩, by rw [start_result, hsettings]; rfl, rfl, rfl⟩
  · rw [hf] at hend hlisted
    rw [start_result]
    exact ⟨hend.map _, fun hsettings => by rw [hlisted hsettings]; rfl⟩
  · obtain ⟨s, hs, rfl⟩ := start_eq_ok hl
    obtain ⟨c, -, rfl⟩ := Result.map_eq_ok ((hend.eq_ok_iff s).1 hs)
    exact ⟨findsId_run (c.withId n), fun b => findsId_run ((c.withId n).withBackend b)⟩
  · exact ⟨_, Toml.parse_spelling hx, givesId_section (standsFor_spelling hx)⟩

/-- A place with three files. The second of them has the least of all ids, and the third an empty
table for the section of the id. -/
def endsPlace : Place := ⟨"config", "production"⟩

def endsText : String :=
  "[app]\nname = \"b\"\n[demo]\nid = -9223372036854775808\n"

def endsFiles : Folder :=
  ((Folder.empty.write
      "config/default.toml" (.file ⟨"demo = \x7b id = 1, name = \"a\" \x7d\n", false⟩)).write
      "config/production.toml" (.file ⟨endsText, false⟩)).write
      "config/local.toml" (.file ⟨"demo = \x7b\x7d\n", false⟩)

/-- The greatest of all ids in its variable. -/
def endsVariables : Variables :=
  .ofList [("ROSTER__DEMO__NAME", "c"), ("Roster__Demo__Id", "9223372036854775807")]

/-- What is loaded there beside the id. -/
def endsSettings (name : String) : Settings :=
  { app := { name := "b", environment := "production" }, demo := { name := name } }

theorem id_survives_ends :
    (∃ l, (Loader.start endsPlace ⟨endsFiles, .empty⟩).result = .ok l ∧
      l.get = (endsSettings "a").withId (-9223372036854775808) ∧
      FindsId (-9223372036854775808) (Application.run (some (l.get.withBackend .mock))).result) ∧
    ∃ l, (Loader.start endsPlace ⟨endsFiles, endsVariables⟩).result = .ok l ∧
      l.get = (endsSettings "c").withId 9223372036854775807 ∧
      FindsId 9223372036854775807 (Application.run (some (l.get.withBackend .store))).result := by
  have hall : ∀ d ∈ Toml.parse endsText, GivesId d (-9223372036854775808) := by decide +kernel
  obtain ⟨d, hd⟩ : ∃ d, Toml.parse endsText = some d :=
    Option.isSome_iff_exists.1 (by decide +kernel)
  have hname : ["default", endsPlace.environment, "local"] =
      ["default"] ++ "production" :: ["local"] := rfl
  have hholds : Holds endsFiles (endsPlace.path "production") (some d) :=
    .inr ⟨endsText, by decide +kernel, hd, rfl⟩
  have hlisted (i : Nat) : d.inOrder (Order.listed.documents i) = d := d.inOrder_listed
  have hfile : GivenId endsPlace ⟨endsFiles, .empty⟩ (-9223372036854775808) :=
    .inFile hname (fun _ => by decide) hholds (by rw [hlisted]; exact hall d hd) (by decide +kernel)
      (by decide)
  have hvariable : GivenId endsPlace ⟨endsFiles, endsVariables⟩ 9223372036854775807 :=
    .inVariable (by decide +kernel)
  obtain ⟨hlow, -⟩ := id_survives hfile
  obtain ⟨hhigh, -⟩ := id_survives hvariable
  obtain ⟨l, hl, hget, -⟩ := hlow.loaded (endsSettings "a") (by decide +kernel)
  obtain ⟨m, hm, hmget, -⟩ := hhigh.loaded (endsSettings "c") (by decide +kernel)
  exact ⟨⟨l, hl, hget, (hlow.shown l hl).2 .mock⟩, m, hm, hmget, (hhigh.shown m hm).2 .store⟩

/-- The id in the file of an environment without a name is lost, although nothing else is given. -/
theorem id_lost_unnamed :
    (∃ d, Holds unnamedWorld.files (unnamedPlace.path unnamedPlace.environment) (some d) ∧
      GivesId d 6) ∧
    source? unnamedWorld.files (unnamedPlace.path "local") = none ∧
    unnamedWorld.vars.entries = [] ∧
    (∃ c, unnamedPlace.otherwise unnamedWorld = .ok c) ∧
    ∃ l, (Loader.start unnamedPlace unnamedWorld).result = .ok l ∧ l.get.demo.id ≠ 6 := by
  have htext : Toml.idDocument (Decimal.ofInt (6 : Int64).toInt) = "[demo]\nid = 6\n" := by decide
  have hparse := Toml.parse_spelling (n := 6) (List.mem_cons_self ..)
  have hparse : Toml.parse "[demo]\nid = 6\n" =
      some (.table [("demo", .table [("id", .int 6)])]) :=
    (congrArg Toml.parse htext.symm).trans hparse
  have hgives : GivesId (.table [("demo", .table [("id", .int 6)])]) 6 := by
    simpa using givesId_section (n := 6) (v := .int 6) rfl .listed
  exact ⟨⟨_, .inr ⟨_, by decide +kernel, hparse, rfl⟩, hgives⟩,
    by decide +kernel, rfl,
    ⟨⟨{ environment := "" }, {}, {}, {}⟩, by decide +kernel⟩,
    ⟨unnamedPlace, { environment := "" }, {}, {}, {}⟩, by decide +kernel, by decide⟩

end Configuration

end UserRegistry
