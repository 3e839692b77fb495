import Dismantle.Proofs.Json.Form
/-! Written data, read back. Reading gives the value back from whatever place it stands in, as long
as what follows it cannot be taken for more of a number. -/
namespace Dismantle.Json

theorem skipLayout_append {bs : List Char} (blank : ∀ c ∈ bs, c = ' ' ∨ c = '\n') {c : Char}
    (solid : isLayout c = false) (cs : List Char) (place : Nat) :
    skipLayout (bs ++ c :: cs) place = (c :: cs, place + bs.length) := by
  induction bs generalizing place with
  | nil =>
      rw [List.nil_append, skipLayout, solid, if_neg Bool.false_ne_true]
      rfl
  | cons b bs ih =>
      obtain ⟨here, others⟩ := List.forall_mem_cons.mp blank
      have layout : isLayout b = true := by
        rcases here with rfl | rfl <;> rfl
      rw [List.cons_append, skipLayout, layout, if_pos rfl, ih others, List.length_cons]
      congr 1
      omega

theorem ends_append {bs : List Char} (blank : ∀ c ∈ bs, c = ' ' ∨ c = '\n') {c : Char}
    (mark : c ∈ [',', ']', '}']) (cs : List Char) : Ends (bs ++ c :: cs) := by
  rintro d head
  cases bs with
  | nil =>
      cases head
      rcases List.mem_cons.mp mark with rfl | mark
      · decide
      · rcases List.mem_pair.mp mark with rfl | rfl <;> decide
  | cons b bs =>
      cases head
      rcases blank d List.mem_cons_self with rfl | rfl <;> decide

/-- From wherever it stands, with room for it and fuel for its text, a value is read back. -/
def ReadsBack (l : Layout) (v : Json) : Prop :=
  ∀ (k depth fuel place : Nat) (rest : List Char), v.storable (maxDepth - depth) = true →
    Ends rest → 2 * (write l k v).length ≤ fuel →
      ∃ place', value fuel depth (write l k v ++ rest) place = .ok (v, rest, place')

section
variable {l : Layout} {k depth fuel place : Nat} {rest : List Char}

theorem items_writeItems (blank : l.Blank) {x : Json} {xs done : List Json}
    (each : ∀ y ∈ x :: xs, ReadsBack l y)
    (storable : ∀ y ∈ x :: xs, y.storable (maxDepth - depth) = true)
    (enough : 2 * ((write l (k + 1) x).length + (writeItems l k xs).length) + 1 ≤ fuel) :
    ∃ place', items fuel depth
        (write l (k + 1) x ++ (writeItems l k xs ++ (l.finish k ++ ']' :: rest))) place done
      = .ok (.arr (done.reverse ++ x :: xs), rest, place') := by
  induction xs generalizing x fuel place done with
  | nil =>
      obtain ⟨fuel, rfl⟩ : ∃ f, fuel = f + 1 := ⟨fuel - 1, by omega⟩
      have ends : Ends (l.finish k ++ ']' :: rest) := ends_append (blank.finish k) (by decide) rest
      obtain ⟨place', first⟩ := each x List.mem_cons_self (k + 1) depth fuel place _
        (storable x List.mem_cons_self) ends (by omega)
      have closing : skipLayout (l.finish k ++ ']' :: rest) place'
          = (']' :: rest, place' + (l.finish k).length) :=
        skipLayout_append (blank.finish k) (by decide) rest place'
      rw [writeItems, List.nil_append, items, first]
      simp only [bind, Except.bind, closing, List.reverse_cons]
      exact ⟨_, rfl⟩
  | cons y ys ih =>
      obtain ⟨fuel, rfl⟩ : ∃ f, fuel = f + 1 := ⟨fuel - 1, by omega⟩
      obtain ⟨bs, comma, blanks⟩ := blank.comma k
      obtain ⟨c, cs, head, solid, -⟩ := write_head l (k + 1) (storable y (by simp))
      have width : (writeItems l k (y :: ys)).length
          = 1 + bs.length + (write l (k + 1) y).length + (writeItems l k ys).length := by
        rw [writeItems, comma]
        simp only [List.length_append, List.length_cons]
        omega
      have text : writeItems l k (y :: ys) ++ (l.finish k ++ ']' :: rest)
          = ',' :: (bs ++ (write l (k + 1) y ++ (writeItems l k ys ++ (l.finish k ++ ']' :: rest)))) := by
        rw [writeItems, comma]
        simp only [List.append_assoc, List.cons_append]
      have ends : Ends (',' :: (bs ++ (write l (k + 1) y
          ++ (writeItems l k ys ++ (l.finish k ++ ']' :: rest))))) :=
        ends_append (List.forall_mem_nil _) (by decide) _
      obtain ⟨place', first⟩ := each x List.mem_cons_self (k + 1) depth fuel place _
        (storable x List.mem_cons_self) ends (by omega)
      have others : ∃ place'', items fuel depth (write l (k + 1) y ++ (writeItems l k ys
          ++ (l.finish k ++ ']' :: rest))) (place' + 1 + bs.length) (x :: done)
            = .ok (.arr ((x :: done).reverse ++ y :: ys), rest, place'') :=
        ih (fun z member => each z (List.mem_cons_of_mem x member))
          (fun z member => storable z (List.mem_cons_of_mem x member)) (by omega)
      obtain ⟨place'', others⟩ := others
      have comma' (place : Nat) (cs : List Char) :
          skipLayout (',' :: cs) place = (',' :: cs, place) := rfl
      refine ⟨place'', ?_⟩
      rw [text, items, first]
      simp only [bind, Except.bind, comma']
      rw [head] at others ⊢
      rw [List.cons_append, skipLayout_append blanks solid]
      rw [List.reverse_cons, List.append_assoc, List.singleton_append] at others
      exact others

def behindMember (fuel depth : Nat) (done : Fields) :
    List Char × Nat → Except ReadFault (Json × List Char × Nat)
  | ('}' :: rest, place) => .ok (.obj (Fields.ofPairs done.reverse), rest, place + 1)
  | (',' :: rest, place) =>
    members fuel depth (skipLayout rest (place + 1)).1 (skipLayout rest (place + 1)).2 done
  | (_, place) => .error (.broken .noComma place)

/-- The first member is read, and what comes behind it decides how to go on. -/
theorem members_writeMember {f : Spelling × Json} {done : Fields} {tail : List Char}
    (lasts : f.1.lasts = true) (value : ReadsBack l f.2)
    (storable : f.2.storable (maxDepth - depth) = true) (ends : Ends tail)
    (enough : 2 * (write l (k + 1) f.2).length ≤ fuel) :
    ∃ place', members (fuel + 1) depth (writeMember l k f ++ tail) place done
      = behindMember fuel depth (f :: done) (skipLayout tail place') := by
  obtain ⟨key, v⟩ := f
  obtain ⟨c, cs, head, solid, -⟩ := write_head l (k + 1) storable
  have text : writeMember l k (key, v) ++ tail
      = '"' :: (key.points.flatMap writePoint
          ++ '"' :: ':' :: ' ' :: (write l (k + 1) v ++ tail)) := by
    simp only [writeMember, writeKey, writePoints, List.cons_append, List.append_assoc,
      List.nil_append]
  obtain ⟨same, lasting⟩ := Spelling.lasts_eq_true.mp lasts
  have spelled : ∃ place₁, stringBody place (key.points.flatMap writePoint
      ++ '"' :: ':' :: ' ' :: (write l (k + 1) v ++ tail)) (place + 1) false []
        = .ok (key.points, ':' :: ' ' :: (write l (k + 1) v ++ tail), place₁) :=
    stringBody_writePoints lasting
  obtain ⟨place₁, points⟩ := spelled
  have colon : skipLayout (':' :: ' ' :: (write l (k + 1) v ++ tail)) place₁
      = (':' :: ' ' :: (write l (k + 1) v ++ tail), place₁) := rfl
  have blank : skipLayout (' ' :: (write l (k + 1) v ++ tail)) (place₁ + 1)
      = (write l (k + 1) v ++ tail, place₁ + 1 + 1) := by
    rw [head]
    exact skipLayout_append (List.forall_mem_singleton.mpr (.inl rfl)) solid (cs ++ tail) (place₁ + 1)
  obtain ⟨place', read⟩ := value (k + 1) depth fuel (place₁ + 1 + 1) tail storable ends enough
  refine ⟨place', ?_⟩
  rw [text, members, points]
  simp only [bind, Except.bind, colon, blank, read, same]
  rfl

theorem members_writeFields (blank : l.Blank) {f : Spelling × Json} {fs done : Fields}
    (lasts : ∀ g ∈ f :: fs, g.1.lasts = true)
    (each : ∀ g ∈ f :: fs, ReadsBack l g.2)
    (storable : ∀ g ∈ f :: fs, g.2.storable (maxDepth - depth) = true)
    (enough : 2 * ((writeMember l k f).length + (writeFields l k fs).length) + 1 ≤ fuel) :
    ∃ place', members fuel depth
        (writeMember l k f ++ (writeFields l k fs ++ (l.finish k ++ '}' :: rest))) place done
      = .ok (.obj (Fields.ofPairs (done.reverse ++ f :: fs)), rest, place') := by
  induction fs generalizing f fuel place done with
  | nil =>
      obtain ⟨fuel, rfl⟩ : ∃ n, fuel = n + 1 := ⟨fuel - 1, by omega⟩
      have ends : Ends (l.finish k ++ '}' :: rest) := ends_append (blank.finish k) (by decide) rest
      have width := length_write_le l k f
      have first : ∃ place', members (fuel + 1) depth
          (writeMember l k f ++ (l.finish k ++ '}' :: rest)) place done = _ :=
        members_writeMember (lasts f List.mem_cons_self) (each f List.mem_cons_self) (storable f List.mem_cons_self) ends (by omega)
      obtain ⟨place', first⟩ := first
      have closing : skipLayout (l.finish k ++ '}' :: rest) place'
          = ('}' :: rest, place' + (l.finish k).length) :=
        skipLayout_append (blank.finish k) (by decide) rest place'
      rw [writeFields, List.nil_append, first]
      simp only [closing, behindMember, List.reverse_cons]
      exact ⟨_, rfl⟩
  | cons g gs ih =>
      obtain ⟨fuel, rfl⟩ : ∃ n, fuel = n + 1 := ⟨fuel - 1, by omega⟩
      obtain ⟨bs, comma, blanks⟩ := blank.comma k
      have inside := length_write_le l k f
      have width : (writeFields l k (g :: gs)).length
          = 1 + bs.length + (writeMember l k g).length + (writeFields l k gs).length := by
        rw [writeFields_cons, comma]
        simp only [List.length_append, List.length_cons]
        omega
      have text : writeFields l k (g :: gs) ++ (l.finish k ++ '}' :: rest)
          = ',' :: (bs ++ (writeMember l k g ++ (writeFields l k gs ++ (l.finish k ++ '}' :: rest)))) := by
        rw [writeFields_cons, comma]
        simp only [List.append_assoc, List.cons_append]
      have ends : Ends (',' :: (bs ++ (writeMember l k g
          ++ (writeFields l k gs ++ (l.finish k ++ '}' :: rest))))) :=
        ends_append (List.forall_mem_nil _) (by decide) _
      have first : ∃ place', members (fuel + 1) depth (writeMember l k f ++ ',' :: (bs
          ++ (writeMember l k g ++ (writeFields l k gs ++ (l.finish k ++ '}' :: rest))))) place done
            = _ :=
        members_writeMember (lasts f List.mem_cons_self) (each f List.mem_cons_self) (storable f List.mem_cons_self) ends (by omega)
      obtain ⟨place', first⟩ := first
      have others : ∃ place'', members fuel depth (writeMember l k g ++ (writeFields l k gs
          ++ (l.finish k ++ '}' :: rest))) (place' + 1 + bs.length) (f :: done)
            = .ok (.obj (Fields.ofPairs ((f :: done).reverse ++ g :: gs)), rest, place'') :=
        ih (fun h among => lasts h (List.mem_cons_of_mem f among))
          (fun h among => each h (List.mem_cons_of_mem f among))
          (fun h among => storable h (List.mem_cons_of_mem f among)) (by omega)
      obtain ⟨place'', others⟩ := others
      have comma' (place : Nat) (cs : List Char) :
          skipLayout (',' :: cs) place = (',' :: cs, place) := rfl
      have quote (cs : List Char) : ∃ ds, writeMember l k g ++ cs = '"' :: ds := ⟨_, rfl⟩
      obtain ⟨ds, key⟩ := quote (writeFields l k gs ++ (l.finish k ++ '}' :: rest))
      refine ⟨place'', ?_⟩
      rw [text, first]
      simp only [comma', behindMember]
      rw [key] at others ⊢
      rw [skipLayout_append blanks (by decide)]
      rw [List.reverse_cons, List.append_assoc, List.singleton_append] at others
      exact others

end

/-- Values under keys that are new come behind those that are there. -/
theorem foldl_put_of_nodup {α : Type} (fs done : List (Spelling × α))
    (keys : ((done ++ fs).map Prod.fst).Nodup) :
    fs.foldl (fun gs p => Fields.put gs p.1 p.2) done = done ++ fs := by
  have put_last {key : Spelling} {done : List (Spelling × α)} (new : key ∉ done.map Prod.fst) (v : α) :
      Fields.put done key v = done ++ [(key, v)] := by
    clear keys
    induction done with
    | nil => rfl
    | cons f done ih =>
        obtain ⟨k, w⟩ := f
        rw [List.map_cons, List.mem_cons, not_or] at new
        rw [Fields.put, if_neg (Ne.symm new.1), ih new.2, List.cons_append]
  induction fs generalizing done with
  | nil => rw [List.foldl_nil, List.append_nil]
  | cons f fs ih =>
      obtain ⟨key, v⟩ := f
      have new : key ∉ done.map Prod.fst := by
        intro old
        rw [List.map_append, List.nodup_append] at keys
        exact keys.2.2 key old key List.mem_cons_self rfl
      have next : done ++ (key, v) :: fs = (done ++ [(key, v)]) ++ fs := by
        rw [List.append_assoc, List.singleton_append]
      rw [List.foldl_cons, put_last new, ih _ (next ▸ keys), next]

/-- Fields with different keys stay in their order. -/
theorem ofPairs_of_nodup {fs : Fields} (keys : (fs.map Prod.fst).Nodup) :
    Fields.ofPairs fs = fs :=
  foldl_put_of_nodup fs [] keys

/-- A text that opens neither a string nor a list nor an object holds a scalar. -/
theorem value_of_scalar {cs : List Char} (head : ∀ c ∈ cs.head?, c ≠ '"' ∧ c ≠ '[' ∧ c ≠ '{')
    (fuel depth place : Nat) : value (fuel + 1) depth cs place = scalar cs place := by
  rw [value]
  all_goals
    rintro rest rfl
    have other := head _ rfl
    simp at other

theorem scalar_null (rest : List Char) (place : Nat) :
    scalar ("null".toList ++ rest) place = .ok (.null, rest, place + 4) := rfl

theorem scalar_true (rest : List Char) (place : Nat) :
    scalar ("true".toList ++ rest) place = .ok (.bool true, rest, place + 4) := rfl

theorem scalar_false (rest : List Char) (place : Nat) :
    scalar ("false".toList ++ rest) place = .ok (.bool false, rest, place + 5) := rfl

theorem head_writeInt (i : Int) (rest : List Char) :
    ∀ c ∈ (writeInt i ++ rest).head?, c ≠ '"' ∧ c ≠ '[' ∧ c ≠ '{' := by
  intro c head
  unfold writeInt at head
  split at head
  case isTrue =>
    cases head
    decide
  case isFalse =>
    have digit := head_toDigits i.natAbs rest c head
    refine ⟨?_, ?_, ?_⟩
    all_goals
      rintro rfl
      exact absurd digit (by decide)

/-- A written string is read back as the text of its points. -/
theorem value_writePoints {points : List Nat} (lasting : Lasting points) (fuel depth place : Nat)
    (rest : List Char) : ∃ place', value (fuel + 1) depth (writePoints points ++ rest) place
      = .ok (ofPoints points, rest, place') := by
  have text : writePoints points ++ rest = '"' :: (points.flatMap writePoint ++ '"' :: rest) := by
    simp only [writePoints, List.cons_append, List.append_assoc, List.nil_append]
  have body : ∃ place', stringBody place (points.flatMap writePoint ++ '"' :: rest) (place + 1)
      false [] = .ok (points, rest, place') := stringBody_writePoints lasting
  obtain ⟨place', body⟩ := body
  refine ⟨place', ?_⟩
  rw [text, value, body]
  rfl

theorem readsBack_of_succ {l : Layout} {v : Json}
    (h : ∀ (k depth fuel place : Nat) (rest : List Char), v.storable (maxDepth - depth) = true →
      Ends rest → 2 * (write l k v).length ≤ fuel + 1 →
        ∃ place', value (fuel + 1) depth (write l k v ++ rest) place = .ok (v, rest, place')) :
    ReadsBack l v := by
  intro k depth fuel place rest storable ends enough
  obtain ⟨c, cs, head, -⟩ := write_head l k storable
  cases fuel with
  | zero =>
      rw [head, List.length_cons] at enough
      omega
  | succ fuel => exact h k depth fuel place rest storable ends enough

section
variable {l : Layout} {k depth fuel : Nat} {rest : List Char}

theorem value_writeArr (blank : l.Blank) {items : List Json} (each : ∀ x ∈ items, ReadsBack l x)
    (storable : (Json.arr items).storable (maxDepth - depth) = true)
    (enough : 2 * (write l k (.arr items)).length ≤ fuel + 1) (place : Nat) : ∃ place',
      value (fuel + 1) depth (write l k (.arr items) ++ rest) place = .ok (.arr items, rest, place') := by
  obtain ⟨room, inner⟩ := storable_arr.mp storable
  have shallow : ¬maxDepth ≤ depth := by omega
  have deeper : maxDepth - depth - 1 = maxDepth - (depth + 1) := by omega
  rw [deeper] at inner
  cases items with
  | nil =>
      rw [write, List.cons_append, value, if_neg shallow]
      exact ⟨_, rfl⟩
  | cons x xs =>
      obtain ⟨c, cs, head, solid, notClosed⟩ := write_head l (k + 1) (inner x List.mem_cons_self)
      have text : write l k (.arr (x :: xs)) ++ rest = '[' :: (l.start k
          ++ (write l (k + 1) x ++ (writeItems l k xs ++ (l.finish k ++ ']' :: rest)))) := by
        simp only [write, List.cons_append, List.append_assoc, List.nil_append]
      have width : (write l k (.arr (x :: xs))).length = (l.start k).length
          + (write l (k + 1) x).length + (writeItems l k xs).length + (l.finish k).length + 2 := by
        simp only [write, List.length_cons, List.length_append, List.length_nil]
        omega
      have read : ∃ place', items fuel (depth + 1) (write l (k + 1) x ++ (writeItems l k xs
          ++ (l.finish k ++ ']' :: rest))) (place + 1 + (l.start k).length) []
            = .ok (.arr (x :: xs), rest, place') :=
        items_writeItems blank each inner (by omega)
      obtain ⟨place', read⟩ := read
      refine ⟨place', ?_⟩
      rw [text, value, if_neg shallow]
      rw [head, List.cons_append] at read ⊢
      rw [skipLayout_append (blank.start k) solid]
      split
      case h_1 same =>
        cases same
        exact absurd rfl notClosed
      case h_2 same =>
        cases same
        exact read

theorem value_writeObj (blank : l.Blank) {fields : Fields} (each : ∀ f ∈ fields, ReadsBack l f.2)
    (storable : (Json.obj fields).storable (maxDepth - depth) = true)
    (enough : 2 * (write l k (.obj fields)).length ≤ fuel + 1) (place : Nat) : ∃ place',
      value (fuel + 1) depth (write l k (.obj fields) ++ rest) place
        = .ok (.obj fields, rest, place') := by
  obtain ⟨room, keys, lasts, inner⟩ := storable_obj.mp storable
  have shallow : ¬maxDepth ≤ depth := by omega
  have deeper : maxDepth - depth - 1 = maxDepth - (depth + 1) := by omega
  rw [deeper] at inner
  cases fields with
  | nil =>
      rw [write, List.cons_append, value, if_neg shallow]
      exact ⟨_, rfl⟩
  | cons f fs =>
      have text : write l k (.obj (f :: fs)) ++ rest = '{' :: (l.start k
          ++ (writeMember l k f ++ (writeFields l k fs ++ (l.finish k ++ '}' :: rest)))) := by
        obtain ⟨key, v⟩ := f
        simp only [write, writeMember, List.cons_append, List.append_assoc, List.nil_append]
      have width : (write l k (.obj (f :: fs))).length = (l.start k).length
          + (writeMember l k f).length + (writeFields l k fs).length + (l.finish k).length + 2 := by
        obtain ⟨key, v⟩ := f
        simp only [write, writeMember, List.length_cons, List.length_append, List.length_nil]
        omega
      have read : ∃ place', members fuel (depth + 1) (writeMember l k f ++ (writeFields l k fs
          ++ (l.finish k ++ '}' :: rest))) (place + 1 + (l.start k).length) []
            = .ok (.obj (Fields.ofPairs (f :: fs)), rest, place') :=
        members_writeFields blank lasts each inner (by omega)
      obtain ⟨place', read⟩ := read
      rw [ofPairs_of_nodup keys] at read
      have quote (cs : List Char) : ∃ ds, writeMember l k f ++ cs = '"' :: ds := ⟨_, rfl⟩
      obtain ⟨ds, key⟩ := quote (writeFields l k fs ++ (l.finish k ++ '}' :: rest))
      refine ⟨place', ?_⟩
      rw [text, value, if_neg shallow]
      rw [key] at read ⊢
      rw [skipLayout_append (blank.start k) (by decide)]
      exact read

end

theorem readsBack {l : Layout} (blank : l.Blank) (v : Json) : ReadsBack l v := by
  refine readsBack_of_succ ?_
  intro k depth fuel place rest storable ends enough
  induction v using built generalizing k depth fuel place rest with
  | null =>
      refine ⟨place + 4, ?_⟩
      rw [← scalar_null rest place]
      exact value_of_scalar (by rintro c ⟨⟩; decide) fuel depth place
  | bool b =>
      cases b
      · refine ⟨place + 5, ?_⟩
        rw [← scalar_false rest place]
        exact value_of_scalar (by rintro c ⟨⟩; decide) fuel depth place
      · refine ⟨place + 4, ?_⟩
        rw [← scalar_true rest place]
        exact value_of_scalar (by rintro c ⟨⟩; decide) fuel depth place
  | int i =>
      rw [write, value_of_scalar (head_writeInt i rest)]
      exact scalar_writeInt (storable_int.mp storable) ends place
  | float d => exact absurd storable Bool.false_ne_true
  | str s =>
      have text : write l k (.str s) = writePoints (s.toList.map Char.toNat) := rfl
      obtain ⟨place', read⟩ := value_writePoints (lasting_toNat s.toList) fuel depth place rest
      rw [ofPoints, Spelling.ofPoints_toNat] at read
      rw [text]
      exact ⟨place', read⟩
  | unpaired points =>
      obtain ⟨same, lasting⟩ := Spelling.lasts_eq_true.mp storable
      obtain ⟨place', read⟩ := value_writePoints lasting fuel depth place rest
      rw [ofPoints, same] at read
      rw [write]
      exact ⟨place', read⟩
  | arr items ih =>
      exact value_writeArr blank (fun x member => readsBack_of_succ (ih x member)) storable enough place
  | obj fields ih =>
      exact value_writeObj blank (fun f member => readsBack_of_succ (ih f member)) storable enough place

/-- A whole text holds the value that was written, layout around it aside. -/
theorem readValue_write {l : Layout} (blank : l.Blank) {v : Json} (h : v.storable maxDepth = true) :
    readValue (write l 0 v) = .ok v := by
  obtain ⟨c, cs, head, solid, -⟩ := write_head l 0 h
  obtain ⟨place', read⟩ := readsBack blank v 0 0 (2 * (write l 0 v).length + 2) 0 []
    h (by rintro c ⟨⟩) (by omega)
  rw [List.append_nil] at read
  have start : skipLayout (write l 0 v) 0 = (write l 0 v, 0) := by
    rw [head]
    exact skipLayout_append (List.forall_mem_nil _) solid cs 0
  unfold readValue
  split
  case h_1 rest same =>
    have printed := printed_of_mem_write blank h 0 '\ufeff' (by rw [same]; exact List.mem_cons_self)
    exact absurd printed (by decide)
  case h_2 =>
    simp only [start, read, bind, Except.bind]
    rfl

theorem read_page {v : Json} (h : v.storable maxDepth = true) : read v.page = .ok v := by
  rw [read, page, String.toList_ofList, readValue_write Layout.indented_blank h]
  rfl

theorem read_line {v : Json} (h : v.storable maxDepth = true) : read v.line = .ok v := by
  rw [read, line, String.toList_ofList, readValue_write Layout.oneLine_blank h]
  rfl

end Dismantle.Json
