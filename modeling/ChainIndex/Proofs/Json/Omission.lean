import ChainIndex.Proofs.Json.Members
import Mathlib.Data.List.Perm.Basic

/-!
# ChainIndex.Proofs.Json.Omission

Records that are written without the parts that hold a zero value.

Of the members of an object some may be left out and others added, and all of them may come in
another order (`Abridged`).  A record does not use the members that are added, and it finds the
others wherever they are; so it has the same parts as before, but for those that are missing
(`members?_of_abridged`).  A part that is missing is its default, and so is a zero value as it is
read (`ReadsZero`): nothing is lost (`Members.Abridged.defaulted`).  The same goes for a text, where
it does not matter whether the members that are added can be read (`Document.values_of_abridged`).
-/

namespace ChainIndex.Json

variable {α β : Type}

/-! ## Zero values -/

/-- Zero, the empty text and the empty list. -/
inductive IsZero : Json → Prop
  | number : IsZero (.number (.natural 0))
  | text : IsZero (.string "")
  | list : IsZero (.array [])

/-- What is read of a zero value is the default. -/
def ReadsZero (decode : Json → Option α) (default : α) : Prop :=
  ∀ value, value.IsZero → ∀ a, decode value = some a → a = default

/-- What is read of zero as an unsigned integer is zero. -/
theorem readsZero_toUInt64? : ReadsZero toUInt64? 0 := by
  intro value hzero n hn
  cases hzero <;> simp_all [toUInt64?]

/-- What is read of zero as a signed integer is zero. -/
theorem readsZero_toInt64? : ReadsZero toInt64? 0 := by
  intro value hzero n hn
  cases hzero <;> simp_all [toInt64?]

/-- What is read of the empty text is the empty text. -/
theorem readsZero_toString? : ReadsZero toString? "" := by
  intro value hzero text htext
  cases hzero <;> simp_all [toString?]

/-- What is read of the empty list is the empty list. -/
theorem readsZero_toList? {decode : Json → Option α} : ReadsZero (toList? decode) [] := by
  intro value hzero items hitems
  cases hzero <;> simp_all [toList?]

/-! ## Abridged lists -/

/-- `short` has the items of `full`, in any order, but for some that may be left out, and besides
only items that are passed over. -/
def Abridged (spared passed : β → Prop) (full short : List β) : Prop :=
  ∃ kept omitted added, full.Perm (kept ++ omitted) ∧ short.Perm (kept ++ added) ∧
    (∀ item ∈ omitted, spared item) ∧ ∀ item ∈ added, passed item

/-- Of the items that pass a test, which none does that is added, only some are missing. -/
theorem Abridged.filter {spared passed : β → Prop} {full short : List β}
    (h : Abridged spared passed full short) (test : β → Bool)
    (htest : ∀ item, passed item → test item = false) :
    ∃ omitted, (full.filter test).Perm (short.filter test ++ omitted) ∧
      ∀ item ∈ omitted, spared item := by
  obtain ⟨kept, omitted, added, hfull, hshort, homitted, hadded⟩ := h
  have hpassed : added.filter test = [] := by
    refine List.filter_eq_nil_iff.mpr fun item hitem => ?_
    simpa using htest item (hadded item hitem)
  have hkept : (short.filter test).Perm (kept.filter test) := by
    simpa only [List.filter_append, hpassed, List.append_nil] using hshort.filter test
  have hsplit : (full.filter test).Perm (kept.filter test ++ omitted.filter test) := by
    simpa only [List.filter_append] using hfull.filter test
  exact ⟨omitted.filter test, hsplit.trans (hkept.symm.append_right _),
    fun item hitem => homitted item (List.mem_of_mem_filter hitem)⟩

/-- Among rows of distinct names, looking up a name finds the row of this name. -/
theorem lookup_eq_some_iff_mem {rows : List (String × β)} (h : (rows.map Prod.fst).Nodup)
    {name : String} {value : β} : rows.lookup name = some value ↔ (name, value) ∈ rows := by
  constructor
  · intro hlookup
    obtain ⟨before, after, rfl, -⟩ := List.lookup_eq_some_iff.mp hlookup
    simp
  · intro hmem
    obtain ⟨before, after, rfl⟩ := List.append_of_mem hmem
    rw [List.map_append, List.map_cons] at h
    refine List.lookup_eq_some_iff.mpr ⟨before, after, rfl, fun row hrow => ?_⟩
    have hne : name ≠ row.1 := by
      rintro rfl
      exact (List.nodup_append.mp h).2.2 row.1 (List.mem_map_of_mem hrow) row.1 (by simp) rfl
    simpa using hne

/-- If all names are distinct, those of one part are, and none of them is in the other part. -/
theorem nodup_of_perm_append {rows rows₁ rows₂ : List (String × β)}
    (h : rows.Perm (rows₁ ++ rows₂)) (hnodup : (rows.map Prod.fst).Nodup) :
    (rows₁.map Prod.fst).Nodup ∧ ∀ row₁ ∈ rows₁, ∀ row₂ ∈ rows₂, row₁.1 ≠ row₂.1 := by
  have hboth := (h.map Prod.fst).nodup_iff.mp hnodup
  rw [List.map_append, List.nodup_append] at hboth
  obtain ⟨hnodup₁, -, hdisjoint⟩ := hboth
  exact ⟨hnodup₁, fun row₁ h₁ row₂ h₂ => hdisjoint _ (List.mem_map_of_mem h₁) _
    (List.mem_map_of_mem h₂)⟩

/-! ## Records -/

variable {spare : String → Prop} {names : List String}

/-- A member that may be left out: its name is spare, and its value zero. -/
def MayOmit (spare : String → Prop) (member : String × Json) : Prop :=
  spare member.1 ∧ member.2.IsZero

/-- A member that a record of these names does not use. -/
def Unused (names : List String) (member : String × Json) : Prop := member.1 ∉ names

/-- One record has the parts of another, but for some with zero values that are missing. -/
def Members.Abridged (spare : String → Prop) (m m' : Members) : Prop :=
  ∀ name, m'.get? name = m.get? name ∨
    spare name ∧ m'.get? name = none ∧ ∃ value, m.get? name = some value ∧ value.IsZero

namespace Members.Abridged

variable {m m' : Members} {name : String} {decode : Json → Option α} {default a : α}

/-- A part that must be there is not left out. -/
theorem required (h : Abridged spare m m') (hname : ¬ spare name) :
    m'.required name decode = m.required name decode := by
  obtain hsame | ⟨hspare, -⟩ := h name
  · rw [Members.required, Members.required, hsame]
  · exact absurd hspare hname

/-- A part that is missing is read as if it was there. -/
theorem defaulted (h : Abridged spare m m') (hzero : ReadsZero decode default)
    (hread : m.defaulted name default decode = some a) :
    m'.defaulted name default decode = some a := by
  obtain hsame | ⟨-, hnone, value, hvalue, hzeroValue⟩ := h name
  · rwa [Members.defaulted, hsame]
  · rw [Members.defaulted, hvalue] at hread
    rw [Members.defaulted, hnone, hzero value hzeroValue a hread]

/-- A record that only misses some members with zero values is an abridged one. -/
theorem of_perm {full short omitted : List (String × Json)} {positional : Bool}
    (hnodup : (full.map Prod.fst).Nodup) (hperm : full.Perm (short ++ omitted))
    (homitted : ∀ member ∈ omitted, MayOmit spare member) :
    Abridged spare ⟨full, positional⟩ ⟨short, positional⟩ := by
  obtain ⟨hnodupShort, hdisjoint⟩ := nodup_of_perm_append hperm hnodup
  intro name
  change short.lookup name = full.lookup name ∨ spare name ∧ short.lookup name = none ∧
    ∃ value, full.lookup name = some value ∧ value.IsZero
  cases hfull : full.lookup name with
  | none =>
    left
    rw [List.lookup_eq_none_iff] at hfull ⊢
    exact fun row hrow => hfull row (hperm.mem_iff.mpr (List.mem_append_left _ hrow))
  | some value =>
    rw [lookup_eq_some_iff_mem hnodup, hperm.mem_iff, List.mem_append] at hfull
    obtain hshort | hout := hfull
    · exact .inl ((lookup_eq_some_iff_mem hnodupShort).mpr hshort)
    · obtain ⟨hspare, hzero⟩ := homitted _ hout
      have hnone : short.lookup name = none := by
        refine List.lookup_eq_none_iff.mpr fun row hrow => ?_
        simpa using (hdisjoint row hrow _ hout).symm
      exact .inr ⟨hspare, hnone, value, rfl, hzero⟩

end Members.Abridged

/-- A record that is read from an object has the same parts, but for zero values, in an abridged
object. -/
theorem members?_of_abridged {full short : List (String × Json)} {m : Members}
    (h : Abridged (MayOmit spare) (Unused names) full short)
    (hm : (object full).members? names = some m) :
    ∃ m', (object short).members? names = some m' ∧ m.Abridged spare m' := by
  obtain ⟨hnodup, rfl⟩ := members?_object_eq_some_iff.mp hm
  have hunused (member : String × Json) (h : Unused names member) :
      names.contains member.1 = false := by simpa [Unused] using h
  obtain ⟨omitted, hperm, homitted⟩ := h.filter _ hunused
  have hnodup' := (nodup_of_perm_append hperm hnodup).1
  exact ⟨_, members?_object_eq_some_iff.mpr ⟨hnodup', rfl⟩, .of_perm hnodup hperm homitted⟩

/-- A record of one part finds it among members that it does not use. -/
theorem members?_of_unused {name : String} {before after : List (String × Json)} {value : Json}
    (h : ∀ member ∈ before ++ after, Unused [name] member) :
    (object (before ++ (name, value) :: after)).members? [name] =
      some ⟨[(name, value)], false⟩ := by
  have hunused (members : List (String × Json)) (h : ∀ member ∈ members, Unused [name] member) :
      usedMembers [name] members = [] := by
    simpa [usedMembers, Unused] using h
  obtain ⟨hbefore, hafter⟩ := List.forall_mem_append.mp h
  have hsplit : usedMembers [name] (before ++ (name, value) :: after) =
      usedMembers [name] before ++ (name, value) :: usedMembers [name] after := by
    simp [usedMembers]
  have hused : usedMembers [name] (before ++ (name, value) :: after) = [(name, value)] := by
    rw [hsplit, hunused before hbefore, hunused after hafter, List.nil_append]
  exact members?_object_eq_some_iff.mpr ⟨by simp [hused], by rw [hused]⟩

/-! ## Texts -/

namespace Document

/-- Documents of zero, the empty text and the empty list. -/
inductive IsZero : Document → Prop
  | number : IsZero (.number (some (.natural 0)))
  | text : IsZero (.string (some ""))
  | list : IsZero (.array [])

/-- The value of a document of zero is zero, if it has one. -/
theorem IsZero.of_toJson? {depth : Nat} {document : Document} {value : Json}
    (h : document.IsZero) (hread : document.toJson? depth = some value) : value.IsZero := by
  cases h with
  | number =>
    obtain rfl : Json.number (.natural 0) = value := by simpa [toJson?] using hread
    exact .number
  | text =>
    obtain rfl : Json.string "" = value := by simpa [toJson?] using hread
    exact .text
  | list =>
    cases depth with
    | zero => simp [toJson?] at hread
    | succ depth =>
      obtain rfl : Json.array [] = value := by simpa [toJson?, itemsToJson?] using hread
      exact .list

/-- A member that may be left out: its name is spare, and its value zero. -/
def MayOmit (spare : String → Prop) (member : Option String × Document) : Prop :=
  ∃ name, member.1 = some name ∧ spare name ∧ member.2.IsZero

/-- A member that a record of these names does not use; its value need not be readable. -/
def Unused (names : List String) (member : Option String × Document) : Prop :=
  ∃ name, member.1 = some name ∧ name ∉ names

/-! ### Objects -/

/-- A member is read before the members that follow it. -/
theorem readMembers_cons {fuel : Nat} {text rest after tail : List Char} {name : Option String}
    {value : Document} {members : List (Option String × Document)}
    (hname : readString text = some (name, ':' :: rest))
    (hvalue : readValue fuel rest = some (value, ',' :: after))
    (hmembers : readMembers fuel after = some (members, tail)) :
    readMembers (fuel + 1) ('"' :: text) = some ((name, value) :: members, tail) := by
  simp [readMembers, skipBlanks, hname, hvalue, hmembers]

/-- The text of an object is read as soon as its members are. -/
theorem read_object {text : String} {chars : List Char}
    {members : List (Option String × Document)} (htext : text.toList = '\x7b' :: '"' :: chars)
    (hmembers : ∀ fuel, readMembers (fuel + 3) ('"' :: chars) = some (members, [])) :
    read text = some (.object members) := by
  have hfuel : 2 * (chars.length + 2) + 2 = 2 * chars.length + 2 + 3 + 1 := by omega
  have hvalue : readValue (2 * (chars.length + 2) + 2) ('\x7b' :: '"' :: chars) =
      some (.object members, []) := by
    rw [hfuel]
    simp [readValue, skipBlanks, hmembers]
  simp [read, htext, hvalue, skipBlanks]

/-! ### Pruning -/

@[simp] theorem prune_any (document : Document) : document.prune .any = document := by
  cases document <;> simp [prune]

/-- A name has a shape in a record exactly if it is among the names of the record. -/
theorem lookup_map_any {name : String} (names : List String) :
    (names.map fun name => (name, Shape.any)).lookup name =
      if name ∈ names then some .any else none := by
  induction names with
  | nil => rfl
  | cons other names ih =>
    rw [List.map_cons, List.lookup_cons, ih]
    by_cases h : name = other
    · simp [h]
    · simp [h, beq_eq_false_iff_ne.mpr h]

/-- The members that a record of these names uses, and those of which the name cannot be read. -/
def usedMembers (names : List String) (members : List (Option String × Document)) :
    List (Option String × Document) :=
  members.filter fun member => member.1.all names.contains

/-- Pruning leaves the members that a record uses. -/
theorem pruneMembers_any (names : List String) (members : List (Option String × Document)) :
    pruneMembers (names.map fun name => (name, .any)) members = usedMembers names members := by
  unfold usedMembers
  induction members with
  | nil => rfl
  | cons member members ih =>
    obtain ⟨name, document⟩ := member
    cases name with
    | none => simp [pruneMembers, ih]
    | some name =>
      rw [pruneMembers, lookup_map_any]
      by_cases h : name ∈ names <;> simp [h, ih]

/-- Pruning leaves the items of an array of parts as they are. -/
theorem prunePositions_any (names : List String) (items : List Document) :
    prunePositions (names.map fun name => (name, .any)) items = items := by
  induction items generalizing names with
  | nil => cases names <;> rfl
  | cons item items ih =>
    cases names with
    | nil => rfl
    | cons name names => rw [List.map_cons, prunePositions, prune_any, ih]

/-- Every member is pruned by itself. -/
theorem pruneMembers_append (fields : List (String × Shape))
    (members₁ members₂ : List (Option String × Document)) :
    pruneMembers fields (members₁ ++ members₂) =
      pruneMembers fields members₁ ++ pruneMembers fields members₂ := by
  induction members₁ with
  | nil => rfl
  | cons member members₁ ih =>
    obtain ⟨name, document⟩ := member
    cases name with
    | none => simp [pruneMembers, ih]
    | some name =>
      simp only [List.cons_append, pruneMembers]
      cases fields.lookup name <;> simp [ih]

/-- A record of one part leaves nothing but this part of members that it does not use. -/
theorem prune_of_unused {name : String} {shape : Shape}
    {before after : List (Option String × Document)} {document : Document}
    (h : ∀ member ∈ before ++ after, Unused [name] member) :
    (object (before ++ (some name, document) :: after)).prune (.record [(name, shape)]) =
      .object [(some name, document.prune shape)] := by
  have hunused (members : List (Option String × Document))
      (h : ∀ member ∈ members, Unused [name] member) :
      pruneMembers [(name, shape)] members = [] := by
    induction members with
    | nil => rfl
    | cons member members ih =>
      obtain ⟨⟨other, hother, hne⟩, hmembers⟩ := List.forall_mem_cons.mp h
      obtain ⟨_, value⟩ := member
      obtain rfl : _ = some other := hother
      have hbeq : (other == name) = false := by simpa using hne
      simp [pruneMembers, List.lookup_cons, hbeq, ih hmembers]
  obtain ⟨hbefore, hafter⟩ := List.forall_mem_append.mp h
  have hkept : pruneMembers [(name, shape)] ((some name, document) :: after) =
      (some name, document.prune shape) :: pruneMembers [(name, shape)] after := by
    simp [pruneMembers]
  rw [prune, pruneMembers_append, hkept, hunused before hbefore, hunused after hafter,
    List.nil_append]

/-! ### Values -/

variable {depth : Nat} {values : List (String × Json)}

/-- Members can be read if the first one and the others can. -/
theorem membersToJson?_cons_eq_some_iff {member : Option String × Document}
    {members : List (Option String × Document)} :
    membersToJson? depth (member :: members) = some values ↔
      ∃ name value rest, member.1 = some name ∧ member.2.toJson? depth = some value ∧
        membersToJson? depth members = some rest ∧ values = (name, value) :: rest := by
  obtain ⟨name, document⟩ := member
  simp only [membersToJson?, Option.bind_eq_bind, Option.bind_eq_some_iff, Option.some.injEq]
  constructor
  · rintro ⟨name, hname, value, hvalue, rest, hrest, rfl⟩
    exact ⟨name, value, rest, hname, hvalue, hrest, rfl⟩
  · rintro ⟨name, value, rest, hname, hvalue, hrest, rfl⟩
    exact ⟨name, hname, value, hvalue, rest, hrest, rfl⟩

/-- An object of one member is read one level deeper than the member. -/
theorem toJson?_object_singleton (depth : Nat) (name : String) (document : Document) :
    (object [(some name, document)]).toJson? (depth + 1) =
      (document.toJson? depth).map fun value => Json.object [(name, value)] := by
  simp only [toJson?, membersToJson?]
  cases document.toJson? depth <;> rfl

/-- An array of one item is read one level deeper than the item. -/
theorem toJson?_array_singleton (depth : Nat) (document : Document) :
    (array [document]).toJson? (depth + 1) =
      (document.toJson? depth).map fun value => Json.array [value] := by
  simp only [toJson?, itemsToJson?]
  cases document.toJson? depth <;> rfl

/-- Members can be read if those of two parts can. -/
theorem membersToJson?_append_eq_some_iff {members₁ members₂ : List (Option String × Document)} :
    membersToJson? depth (members₁ ++ members₂) = some values ↔
      ∃ values₁ values₂, membersToJson? depth members₁ = some values₁ ∧
        membersToJson? depth members₂ = some values₂ ∧ values = values₁ ++ values₂ := by
  induction members₁ generalizing values with
  | nil => simp [membersToJson?]
  | cons member members₁ ih =>
    simp only [List.cons_append, membersToJson?_cons_eq_some_iff, ih]
    constructor
    · rintro ⟨name, value, _, hname, hvalue, ⟨values₁, values₂, h₁, h₂, rfl⟩, rfl⟩
      exact ⟨_, values₂, ⟨name, value, values₁, hname, hvalue, h₁, rfl⟩, h₂, rfl⟩
    · rintro ⟨_, values₂, ⟨name, value, values₁, hname, hvalue, h₁, rfl⟩, h₂, rfl⟩
      exact ⟨name, value, _, hname, hvalue, ⟨values₁, values₂, h₁, h₂, rfl⟩, rfl⟩

/-- Members in another order have their values in another order. -/
theorem membersToJson?_perm {members members' : List (Option String × Document)}
    (h : members.Perm members') (hread : membersToJson? depth members = some values) :
    ∃ values', membersToJson? depth members' = some values' ∧ values.Perm values' := by
  induction h generalizing values with
  | nil => exact ⟨values, hread, .refl _⟩
  | cons member _ ih =>
    obtain ⟨name, value, rest, hname, hvalue, hrest, rfl⟩ :=
      membersToJson?_cons_eq_some_iff.mp hread
    obtain ⟨rest', hrest', hperm⟩ := ih hrest
    exact ⟨_, membersToJson?_cons_eq_some_iff.mpr ⟨name, value, rest', hname, hvalue, hrest', rfl⟩,
      hperm.cons _⟩
  | swap member₁ member₂ members =>
    obtain ⟨name₂, value₂, _, hname₂, hvalue₂, h₂, rfl⟩ := membersToJson?_cons_eq_some_iff.mp hread
    obtain ⟨name₁, value₁, rest, hname₁, hvalue₁, hrest, rfl⟩ :=
      membersToJson?_cons_eq_some_iff.mp h₂
    have hrest' := membersToJson?_cons_eq_some_iff.mpr
      ⟨name₂, value₂, rest, hname₂, hvalue₂, hrest, rfl⟩
    exact ⟨_, membersToJson?_cons_eq_some_iff.mpr ⟨name₁, value₁, _, hname₁, hvalue₁, hrest', rfl⟩,
      .swap ..⟩
  | trans _ _ ih₁ ih₂ =>
    obtain ⟨values₁, hread₁, hperm₁⟩ := ih₁ hread
    obtain ⟨values₂, hread₂, hperm₂⟩ := ih₂ hread₁
    exact ⟨values₂, hread₂, hperm₁.trans hperm₂⟩

/-- Every value of an object is that of one of its members. -/
theorem exists_of_mem_membersToJson? {members : List (Option String × Document)}
    (hread : membersToJson? depth members = some values) {name : String} {value : Json}
    (hmem : (name, value) ∈ values) :
    ∃ document, (some name, document) ∈ members ∧ document.toJson? depth = some value := by
  induction members generalizing values with
  | nil =>
    obtain rfl : [] = values := by simpa [membersToJson?] using hread
    cases hmem
  | cons member members ih =>
    obtain ⟨_, _, rest, hname, hvalue, hrest, rfl⟩ := membersToJson?_cons_eq_some_iff.mp hread
    obtain heq | hin := List.mem_cons.mp hmem
    · obtain ⟨rfl, rfl⟩ := Prod.mk.inj heq
      exact ⟨member.2, by simp [← hname], hvalue⟩
    · obtain ⟨document, hin, hdocument⟩ := ih hrest hin
      exact ⟨document, List.mem_cons_of_mem _ hin, hdocument⟩

/-- An array has as many values as items. -/
theorem length_of_itemsToJson? {items : List Document} {values : List Json}
    (hread : itemsToJson? depth items = some values) : values.length = items.length := by
  induction items generalizing values with
  | nil =>
    obtain rfl : [] = values := by simpa [itemsToJson?] using hread
    rfl
  | cons item items ih =>
    simp only [itemsToJson?, Option.bind_eq_bind, Option.bind_eq_some_iff,
      Option.some.injEq] at hread
    obtain ⟨value, -, rest, hrest, rfl⟩ := hread
    rw [List.length_cons, List.length_cons, ih hrest]

/-- Where the members that are used can be read, those of an abridged list can, and they have the
values of an abridged list. -/
theorem values_of_abridged {full short : List (Option String × Document)}
    (h : Abridged (MayOmit spare) (Unused names) full short)
    (hread : membersToJson? depth (usedMembers names full) = some values) :
    ∃ values', membersToJson? depth (usedMembers names short) = some values' ∧
      Abridged (Json.MayOmit spare) (Json.Unused names) values values' := by
  have hunused (member : Option String × Document) (h : Unused names member) :
      member.1.all names.contains = false := by
    obtain ⟨name, hname, hnot⟩ := h
    simpa [hname] using hnot
  obtain ⟨omitted, hperm, homitted⟩ := h.filter _ hunused
  obtain ⟨_, hboth, hvalues⟩ := membersToJson?_perm hperm hread
  obtain ⟨values', omittedValues, hvalues', hout, rfl⟩ :=
    membersToJson?_append_eq_some_iff.mp hboth
  refine ⟨values', hvalues', values', omittedValues, [], hvalues, by simp, ?_, by simp⟩
  rintro ⟨name, value⟩ hmem
  obtain ⟨document, hmember, hdocument⟩ := exists_of_mem_membersToJson? hout hmem
  obtain ⟨_, hname, hspare, hzero⟩ := homitted _ hmember
  obtain rfl := Option.some.inj hname
  exact ⟨hspare, hzero.of_toJson? hdocument⟩

end Document

end ChainIndex.Json
