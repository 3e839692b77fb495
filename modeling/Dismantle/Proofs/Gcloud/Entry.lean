import Dismantle.Proofs.Gcloud.Keys
/-! Whose entries a deleted key takes with it: its own, and any other that has it somewhere inside. -/
namespace Dismantle.Gcloud

open Text (isBlank trimEnds IsTrimmed)

/-- Trimmed, a text is a key, or a key with a blank and a comment behind it. -/
def Spells (key text : List Char) : Prop :=
  trimEnds isBlank text = key ∨
    ∃ blank comment, isBlank blank = true ∧ trimEnds isBlank text = key ++ blank :: comment

/-- What stands behind the name of a user, which ends at the first colon. -/
def behindUser (line : List Char) : List Char := (line.dropWhile (· ≠ ':')).tail

/-- A line is an entry of a key, whether it names a user or not. -/
def IsEntryOf (key line : String) : Prop :=
  Spells key.toList line.toList ∨ Spells key.toList (behindUser line.toList)

/-- Before the key of an entry there are blanks, and maybe a user before them. -/
def Opens (before : List Char) : Prop :=
  (∀ c ∈ before, isBlank c = true) ∨
    ∃ user blanks, before = user ++ ':' :: blanks ∧ ':' ∉ user ∧ ∀ c ∈ blanks, isBlank c = true

/-- The key of an entry ends the line, or a blank ends the key. -/
def Closes (after : List Char) : Prop := ∀ c ∈ after.head?, isBlank c = true

/-- A key stands in a line, but nowhere as the key of an entry does. -/
def Stray (key line : String) : Prop :=
  Holds key line ∧ ∀ before after, line.toList = before ++ key.toList ++ after →
    ¬(Opens before ∧ Closes after)

section Places
variable {key text line after rest : List Char}

theorem closes_iff : Closes after ↔
    after = [] ∨ ∃ blank comment, isBlank blank = true ∧ after = blank :: comment := by
  cases after <;> simp [Closes]

theorem Closes.append {back : List Char} (closes : Closes after)
    (blank : ∀ c ∈ back, isBlank c = true) : Closes (after ++ back) := by
  intro c head
  cases after with
  | nil => exact blank c (List.mem_of_mem_head? head)
  | cons d after => exact closes c head

theorem Closes.front (closes : Closes after) (kept : rest <+: after) : Closes rest := by
  obtain ⟨back, rfl⟩ := kept
  intro c head
  apply closes c
  simp [Option.mem_def.mp head]

theorem spells_of_rest : Spells key text ↔
    ∃ rest, trimEnds isBlank text = key ++ rest ∧ Closes rest := by
  simp only [closes_iff]
  constructor
  · rintro (same | ⟨blank, comment, ends, same⟩)
    · exact ⟨[], by simpa using same, .inl rfl⟩
    · exact ⟨blank :: comment, same, .inr ⟨blank, comment, ends, rfl⟩⟩
  · rintro ⟨rest, same, rfl | ⟨blank, comment, ends, rfl⟩⟩
    · exact .inl (by simpa using same)
    · exact .inr ⟨blank, comment, ends, same⟩

instance : Decidable (Closes after) :=
  match after with
  | [] => isTrue nofun
  | c :: _ => decidable_of_iff (isBlank c = true) (by simp [Closes])

instance : Decidable (Spells key text) :=
  let trimmed := trimEnds isBlank text
  decidable_of_iff (key <+: trimmed ∧ Closes (trimmed.drop key.length)) <| by
    rw [spells_of_rest]
    constructor
    · rintro ⟨begins, closes⟩
      exact ⟨_, List.prefix_append_drop begins, closes⟩
    · rintro ⟨rest, same, closes⟩
      refine ⟨⟨rest, same.symm⟩, ?_⟩
      rwa [show trimmed = key ++ rest from same, List.drop_left]

/-- A text that spells a key has the key between blanks and a place where an entry's key ends. -/
theorem spells_iff (trimmed : IsTrimmed isBlank key) (some_ : key ≠ []) : Spells key text ↔
    ∃ front after, text = front ++ key ++ after ∧ (∀ c ∈ front, isBlank c = true) ∧
      Closes after := by
  rw [spells_of_rest]
  constructor
  · rintro ⟨rest, same, closes⟩
    obtain ⟨front, back, whole, blank, blank'⟩ := Text.exists_trimEnds isBlank text
    refine ⟨front, rest ++ back, ?_, blank, closes.append blank'⟩
    rw [whole, same]
    simp
  · rintro ⟨front, after, rfl, blank, closes⟩
    exact ⟨after.rdropWhile isBlank, Text.trimEnds_append trimmed some_ blank,
      closes.front (List.rdropWhile_prefix isBlank after)⟩

theorem behindUser_append {user : List Char} (named : ':' ∉ user) :
    behindUser (user ++ ':' :: rest) = rest := by
  have dropped : ∀ c ∈ user, decide (c ≠ ':') = true := by
    intro c member
    exact decide_eq_true fun same => named (same ▸ member)
  unfold behindUser
  rw [Text.dropWhile_append_of_head dropped (by simp)]
  rfl

theorem exists_user (some_ : behindUser line ≠ []) :
    ∃ user, line = user ++ ':' :: behindUser line ∧ ':' ∉ user := by
  have marked : ':' ∈ line := by
    by_contra clear
    have dropped : line.dropWhile (· ≠ ':') = [] := by
      rw [List.dropWhile_eq_nil_iff]
      intro c member
      exact decide_eq_true fun same => clear (same ▸ member)
    exact some_ (by rw [behindUser, dropped, List.tail_nil])
  obtain ⟨user, rest, rfl, clear⟩ := List.eq_append_cons_of_mem marked
  rw [behindUser_append clear]
  exact ⟨user, rfl, clear⟩

/-- The key of an entry begins the line or stands behind a user, and nothing but blanks is between. -/
theorem isEntryOf_iff {key line : String} (trimmed : IsTrimmed isBlank key.toList)
    (some_ : key.toList ≠ []) : IsEntryOf key line ↔
      ∃ before after, line.toList = before ++ key.toList ++ after ∧ Opens before ∧ Closes after := by
  unfold IsEntryOf
  rw [spells_iff trimmed some_, spells_iff trimmed some_]
  constructor
  · rintro (⟨front, after, whole, blank, closes⟩ | ⟨front, after, whole, blank, closes⟩)
    · exact ⟨front, after, whole, .inl blank, closes⟩
    · have left : behindUser line.toList ≠ [] := by simp [whole, some_]
      obtain ⟨user, named, clear⟩ := exists_user left
      refine ⟨user ++ ':' :: front, after, ?_, .inr ⟨user, front, rfl, clear, blank⟩, closes⟩
      rw [named, whole]
      simp
  · rintro ⟨before, after, whole, blank | ⟨user, blanks, rfl, clear, blank⟩, closes⟩
    · exact .inl ⟨before, after, whole, blank, closes⟩
    · refine .inr ⟨blanks, after, ?_, blank, closes⟩
      rw [whole, List.append_assoc, List.append_assoc, List.cons_append, behindUser_append clear,
        List.append_assoc]

end Places

instance (key line : String) : Decidable (IsEntryOf key line) :=
  inferInstanceAs (Decidable (_ ∨ _))

theorem stray_iff {key line : String} (trimmed : IsTrimmed isBlank key.toList)
    (some_ : key.toList ≠ []) : Stray key line ↔ Holds key line ∧ ¬IsEntryOf key line := by
  rw [isEntryOf_iff trimmed some_]
  simp [Stray]

theorem holds_of_isEntryOf {key line : String} (trimmed : IsTrimmed isBlank key.toList)
    (some_ : key.toList ≠ []) (entry : IsEntryOf key line) : Holds key line := by
  obtain ⟨before, after, whole, -⟩ := (isEntryOf_iff trimmed some_).mp entry
  exact ⟨before, after, whole.symm⟩

/-- What becomes of the entries when a key is taken off a list of keys: none is new, and gone are
the key's own and those in which it is stray. No entry is both. -/
structure Takes (key value value' : String) : Prop where
  kept : (entries value').Sublist (entries value)
  taken : ∀ line ∈ entries value, line ∉ entries value' ↔ IsEntryOf key line ∨ Stray key line
  apart : ∀ line, IsEntryOf key line → ¬Stray key line

theorem Takes.of_remaining {key value value' : String} (trimmed : IsTrimmed isBlank key.toList)
    (some_ : key.toList ≠ []) (stored : entries value' = remaining key value) :
    Takes key value value' where
  kept := by
    rw [stored]
    exact List.filter_sublist
  taken line member := by
    have gone : line ∉ entries value' ↔ Holds key line := by simp [stored, remaining, member]
    rw [gone, stray_iff trimmed some_]
    by_cases own : IsEntryOf key line
    · simp [own, holds_of_isEntryOf trimmed some_ own]
    · simp [own]
  apart line own stray := ((stray_iff trimmed some_).mp stray).2 own

/-- Deleting a key takes its own entries off the list of keys, and with them the entries in which
it is stray. -/
theorem deleteKey_takes (t : Tool) {publicKey : String} (known : Text.strip publicKey ≠ "")
    (h : Host) : ∃ l writes, h.launches (deleteKey t publicKey h).2 = l :: writes ∧
      ∀ value value', Shows l value → Stores value writes value' →
        Takes (Text.strip publicKey) value value' := by
  obtain ⟨l, writes, deletes⟩ := deleteKey_deletes t known h
  refine ⟨l, writes, deletes.launched, fun value value' shown stores => ?_⟩
  have some_ : (Text.strip publicKey).toList ≠ [] := fun none => known (String.toList_eq_nil_iff.mp none)
  exact .of_remaining (Text.strip_isTrimmed publicKey) some_
    ((deletes.rewrites value shown).stored stores)

/-- An own entry, a stray one and one of another key: the last is all that is left. -/
theorem deleteKey_takes_stray :
    let t : Tool := ⟨"", "", "gcloud"⟩
    let own := "ssh-rsa AAAAB3Nz\n"
    let stray := "alice:ssh-rsa AAAAB3NzaC1 alice"
    let shared := "vcap:ssh-rsa AAAAB3Nz env\n" ++ stray ++ "\nbob:ssh-rsa AAAAC3Nz bob"
    let other := "bob:ssh-rsa AAAAC3Nz bob"
    Text.strip own ≠ "" ∧ Stray (Text.strip own) stray ∧
      ∃ l w, (showing shared).launches (deleteKey t own (showing shared)).2 = [l, w] ∧
        Stores shared [w] other ∧ Takes (Text.strip own) shared other := by
  intro t own stray shared other
  have known : Text.strip own ≠ "" := by decide
  obtain ⟨l, writes, launched, takes⟩ := deleteKey_takes t known (showing shared)
  have shown := shows_showing (by decide +kernel) launched
  obtain ⟨l', writes', deletes⟩ := deleteKey_deletes t known (showing shared)
  obtain ⟨rfl, rfl⟩ := List.cons.inj (launched.symm.trans deletes.launched)
  obtain ⟨w, rfl, stores⟩ := (deletes.rewrites shared shown).single (by decide)
  have left : "\n".intercalate (remaining (Text.strip own) shared) = other := by decide
  rw [left] at stores
  have inside : Stray (Text.strip own) stray :=
    (stray_iff (Text.strip_isTrimmed own) (by decide)).mpr (by decide)
  exact ⟨known, inside, l, w, launched, stores, takes shared other shown stores⟩

/-- An entry goes although it is of a longer key, and no other entry is there. -/
theorem deleteKey_not_only_own :
    let t : Tool := ⟨"", "", "gcloud"⟩
    let own := "ssh-rsa AAAAB3Nz"
    let foreign := "alice:ssh-rsa AAAAB3NzaC1 alice"
    Text.strip own ≠ "" ∧ ∃ l w,
      (showing foreign).launches (deleteKey t own (showing foreign)).2 = [l, w] ∧
      Shows l foreign ∧ Stores foreign [w] "" ∧ foreign ∈ entries foreign ∧ foreign ∉ entries "" ∧
        ¬IsEntryOf (Text.strip own) foreign := by
  intro t own foreign
  have known : Text.strip own ≠ "" := by decide
  obtain ⟨l, writes, deletes⟩ := deleteKey_deletes t known (showing foreign)
  have shown := shows_showing (by decide +kernel) deletes.launched
  obtain ⟨w, rfl, stores⟩ := (deletes.rewrites foreign shown).single (by decide)
  have left : "\n".intercalate (remaining (Text.strip own) foreign) = "" := by decide
  rw [left] at stores
  exact ⟨known, l, w, deletes.launched, shown, stores, by decide, by decide, by decide⟩

end Dismantle.Gcloud
