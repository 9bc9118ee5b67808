import UserRegistry.Proofs.Number.Digits
import UserRegistry.Proofs.Store.History

/-!
# The log of a store

Every change of a store is told in its log. Its messages of level `info` say which id was created,
replaced, updated or deleted. Whoever starts from the ids that the store was seeded with and
follows these messages, reading each id back from the text, knows after every request which ids
have a record: `journal_run`. A message that cannot be true of the ids so far would end the
following (`Note.apply`), and so would one that cannot be read; there is none.

A request that creates, updates or deletes tells of it once: by such a message if it succeeds, and
by a warning if it fails (`Tells`). Reading a record is no news.
-/

namespace UserRegistry

namespace UserId

/-- The id that a text writes in decimal. -/
def ofText? (text : String) : Option UserId :=
  (Decimal.int64? text.toList).map UserId.mk

theorem ofText?_text (id : UserId) : ofText? id.text = some id := by
  rw [ofText?, text, Decimal.ofInt64, String.toList_ofList, Decimal.int64?_ofInt,
    Decimal.fit?_toInt, Option.map_some]

end UserId

namespace Store

/-! ## Messages -/

/-- What a message says of an id. -/
inductive Note where
  | created (id : UserId)
  | replaced (id : UserId)
  | updated (id : UserId)
  | deleted (id : UserId)
deriving DecidableEq, Repr

namespace Note

/-- How the messages of each kind start. The id follows. -/
def openings : List (String × (UserId → Note)) :=
  [("User created: ", created), ("User replaced: ", replaced), ("User updated: ", updated),
    ("User deleted: ", deleted)]

/-- What a message says, if it is of one of the kinds. -/
def ofMessage? (message : String) : Option Note :=
  openings.findSome? fun o =>
    (message.toList.dropPrefix? o.1.toList).bind fun rest =>
      (UserId.ofText? (String.ofList rest)).map o.2

/-- The ids with a record after a message, if it can be true where `ids` had one before: what is
created had none, and what is replaced, updated or deleted had one. -/
def apply (ids : Finset UserId) : Note → Option (Finset UserId)
  | created id => if id ∈ ids then none else some (insert id ids)
  | replaced id | updated id => if id ∈ ids then some ids else none
  | deleted id => if id ∈ ids then some (ids.erase id) else none

end Note

def logName : String := "roster_service::r#impl::user_service_impl"

/-- The messages of a level that come from a store. -/
def messages (l : Level) (es : List Event) : List String :=
  (es.filter fun e => e.target = logName ∧ e.level = l).map Event.message

/-- The ids with a record after messages, each read from its text. -/
def follow (ids : Finset UserId) (messages : List String) : Option (Finset UserId) :=
  messages.foldlM (fun ids m => (Note.ofMessage? m).bind (Note.apply ids)) ids

def seeded (seeds : List User) : Finset UserId :=
  (seeds.map User.id).toFinset

/-- No opening starts another one. -/
theorem Note.openings_apart : ∀ p ∈ openings, ∀ q ∈ openings, p.1.toList <+: q.1.toList →
    p.1 = q.1 := by decide

/-- What a message says is read from its text, whatever the id is. -/
theorem Note.ofMessage?_opening {start : String} {note : UserId → Note}
    (h : (start, note) ∈ openings) (id : UserId) :
    ofMessage? (start ++ id.text) = some (note id) := by
  have hself : (start ++ id.text).toList.dropPrefix? start.toList = some id.text.toList := by
    rw [String.toList_append]
    exact List.dropPrefix?_eq_some_iff.2 ⟨_, rfl, beq_self_eq_true _⟩
  have hother {p : String × (UserId → Note)} (hp : p ∈ openings) (hne : p.1 ≠ start) :
      (start ++ id.text).toList.dropPrefix? p.1.toList = none := by
    refine Option.eq_none_iff_forall_ne_some.2 fun rest hrest => hne ?_
    obtain ⟨opening, happend, hopening⟩ := List.dropPrefix?_eq_some_iff.1 hrest
    obtain rfl := eq_of_beq hopening
    rw [String.toList_append] at happend
    rcases List.prefix_or_prefix_of_prefix (List.prefix_append start.toList id.text.toList)
      ⟨rest, happend.symm⟩ with hprefix | hprefix
    · exact (openings_apart _ h p hp hprefix).symm
    · exact openings_apart p hp _ h hprefix
  obtain ⟨before, after, hopenings⟩ := List.append_of_mem h
  have hnames : (openings.map Prod.fst).Nodup := by decide
  refine List.findSome?_eq_some_iff.2 ⟨before, _, after, hopenings, ?_, fun p hp => ?_⟩
  · rw [hself, Option.bind_some, String.ofList_toList, UserId.ofText?_text, Option.map_some]
  · rw [hopenings, List.map_append, List.map_cons] at hnames
    have hne : p.1 ≠ start := fun e =>
      (List.nodup_append.1 hnames).2.2 _ (List.mem_map_of_mem hp) _ (List.mem_cons_self ..) e
    rw [hother (by simp [hopenings, hp]) hne, Option.bind_none]

/-! ## Following the log -/

theorem messages_append (l : Level) (es es' : List Event) :
    messages l (es ++ es') = messages l es ++ messages l es' := by
  simp only [messages, List.filter_append, List.map_append]

theorem follow_append (ids : Finset UserId) (ms ms' : List String) :
    follow ids (ms ++ ms') = (follow ids ms).bind fun ids => follow ids ms' :=
  List.foldlM_append ..

/-- One message is followed by what it says. -/
theorem follow_opening (start : String) (note : UserId → Note) (h : (start, note) ∈ Note.openings)
    (id : UserId) (ids : Finset UserId) : follow ids [start ++ id.text] = (note id).apply ids := by
  simp only [follow, List.foldlM_cons, List.foldlM_nil, Note.ofMessage?_opening h, bind_pure,
    Option.bind_some]

section
variable {s : Store} {ids : Finset UserId} (h : Counts s ids)
include h

/-- A record that is put into a store is created or replaced, and told of as such. -/
theorem follow_put (u : User) :
    follow ids (messages .info [if s.contains u.id then .userReplaced u.id
      else .userCreated u.id]) = some (insert u.id ids) := by
  by_cases hu : u.id ∈ ids
  · rw [if_pos ((h.1 u.id).1 hu)]
    refine (follow_opening "User replaced: " .replaced (by simp [Note.openings]) ..).trans ?_
    rw [Note.apply, if_pos hu, Finset.insert_eq_of_mem hu]
  · rw [if_neg fun hc => hu ((h.1 u.id).2 hc)]
    refine (follow_opening "User created: " .created (by simp [Note.openings]) ..).trans ?_
    rw [Note.apply, if_neg hu]

/-- **What a request tells of is true** of the ids with a record, and makes of them the ids with a
record afterwards. -/
theorem follow_respond (r : Request) :
    ∃ ids', follow ids (messages .info (s.respond r).1.events) = some ids' ∧
      Counts (s.respond r).2 ids' := by
  cases r with
  | get id =>
    simp only [respond]
    split <;> exact ⟨ids, rfl, h⟩
  | create user =>
    cases user with
    | none => exact ⟨ids, rfl, h⟩
    | some u => exact ⟨insert u.id ids, follow_put h u, h.put u⟩
  | update user =>
    cases user with
    | none => exact ⟨ids, rfl, h⟩
    | some u =>
      simp only [respond]
      split
      · rename_i hc
        have hu := (h.1 u.id).2 hc
        refine ⟨insert u.id ids, ?_, h.put u⟩
        refine (follow_opening "User updated: " .updated (by simp [Note.openings]) ..).trans ?_
        rw [Note.apply, if_pos hu, Finset.insert_eq_of_mem hu]
      · exact ⟨ids, rfl, h⟩
  | delete id =>
    simp only [respond]
    split
    · rename_i hc
      refine ⟨ids.erase id, ?_, h.erase id⟩
      refine (follow_opening "User deleted: " .deleted (by simp [Note.openings]) ..).trans ?_
      rw [Note.apply, if_pos ((h.1 id).2 hc)]
    · exact ⟨ids, rfl, h⟩
  | scenario u =>
    refine ⟨insert u.id ids, ?_, h.put u⟩
    refine Eq.trans ?_ (follow_put h u)
    simp only [respond]
    split <;> rfl

theorem follow_eventsAll (rs : List Request) :
    ∃ ids', follow ids (messages .info (Request.eventsAll service rs s)) = some ids' ∧
      Counts (Request.leavesAll rs s) ids' := by
  induction rs generalizing s ids with
  | nil => exact ⟨ids, rfl, h⟩
  | cons r rs ih =>
    obtain ⟨ids₁, hfirst, hcounts₁⟩ := follow_respond h r
    obtain ⟨ids₂, hrest, hcounts₂⟩ := ih hcounts₁
    refine ⟨ids₂, ?_, ?_⟩
    · rw [Request.eventsAll, run_perform, messages_append, follow_append, hfirst, Option.bind_some,
        hrest]
    · rwa [Request.leavesAll, List.foldl_cons, leaves_eq]

end

theorem counts_foldl_put (users : List User) {s : Store} {ids : Finset UserId} (h : Counts s ids) :
    Counts (users.foldl put s) (ids ∪ seeded users) := by
  induction users generalizing s ids with
  | nil => simpa [seeded] using h
  | cons u users ih =>
    have hids : ids ∪ seeded (u :: users) = insert u.id ids ∪ seeded users := by
      simp only [seeded, List.map_cons, List.toFinset_cons, Finset.union_insert,
        Finset.insert_union]
    rw [hids]
    exact ih (h.put u)

/-- A store has records under the ids that it is seeded with. -/
theorem counts_ofList (seeds : List User) : Counts (ofList seeds) (seeded seeds) := by
  have h := counts_foldl_put seeds counts_empty
  rwa [Finset.empty_union] at h

/-! ## The contract -/

/-- The operation by which a request creates, updates or deletes, if it does. The demonstration
creates its user. -/
def change? : Request → Option (Action Store Unit)
  | .get _ => none
  | .create user => some (create user)
  | .update user => some (update user)
  | .delete id => some (delete id)
  | .scenario u => some (create (some u))

/-- The messages of a level that come from a store while a request is made. -/
def told (l : Level) (s : Store) (r : Request) : List String :=
  messages l ((r.perform service).run s).1.events

/-- How a request tells of itself: once, as a change if it succeeds and as a warning if it fails;
one that changes nothing does not. -/
structure Tells (s : Store) (r : Request) : Prop where
  change : ∀ x, change? r = some x →
    (told .info s r).length = (if x.succeeds s then 1 else 0) ∧
      (told .warn s r).length = if x.succeeds s then 0 else 1
  read : change? r = none → (told .info s r).length = 0 ∧ (told .warn s r).length = 0

theorem tells (s : Store) (r : Request) : Tells s r := by
  have htold (l : Level) : told l s r = messages l (s.respond r).1.events := by
    rw [told, run_perform]
  cases r with
  | get id =>
    refine ⟨by rintro x ⟨⟩, fun _ => ?_⟩
    simp only [htold, respond]
    split <;> exact ⟨rfl, rfl⟩
  | create user =>
    refine ⟨?_, by rintro ⟨⟩⟩
    rintro x ⟨⟩
    simp only [htold]
    cases user with
    | none => exact ⟨rfl, rfl⟩
    | some u =>
      simp only [respond]
      split <;> exact ⟨rfl, rfl⟩
  | update user =>
    refine ⟨?_, by rintro ⟨⟩⟩
    rintro x ⟨⟩
    simp only [htold]
    cases user with
    | none => exact ⟨rfl, rfl⟩
    | some u =>
      simp only [respond, succeeds_update]
      split <;> exact ⟨rfl, rfl⟩
  | delete id =>
    refine ⟨?_, by rintro ⟨⟩⟩
    rintro x ⟨⟩
    simp only [htold, respond, succeeds_delete]
    split <;> exact ⟨rfl, rfl⟩
  | scenario u =>
    refine ⟨?_, by rintro ⟨⟩⟩
    rintro x ⟨⟩
    simp only [htold, respond]
    split <;> exact ⟨rfl, rfl⟩

/-- What the log tells of a run of requests to a store that was seeded with users. -/
structure Journal (seeds : List User) (rs : List Request) : Prop where
  /-- Following the messages from the seeded ids leads to the ids with a record, and these are as
  many as the store counts. -/
  ids : ∃ ids,
    follow (seeded seeds) (messages .info (Request.eventsAll service rs (ofList seeds))) =
        some ids ∧
      (∀ id, id ∈ ids ↔ (Request.leavesAll rs (ofList seeds)).contains id = true) ∧
      (Request.leavesAll rs (ofList seeds)).size = ids.card
  /-- Whatever is requested next tells of itself as it should. -/
  next : ∀ r, Tells (Request.leavesAll rs (ofList seeds)) r

/-- **The log is a journal of the store.** For all users that a store is seeded with and all
requests that follow, of any number and kind and with any failures among them. -/
theorem journal_run (seeds : List User) (rs : List Request) : Journal seeds rs := by
  obtain ⟨ids, hfollow, hmem, hsize⟩ := follow_eventsAll (counts_ofList seeds) rs
  exact ⟨⟨ids, hfollow, hmem, hsize⟩, tells _⟩

end Store

end UserRegistry
