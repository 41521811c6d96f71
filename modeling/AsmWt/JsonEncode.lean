import AsmWt.JsonDecode

/-!
# Values and the JSON texts they are written as

A program reads a text into a value, in which a key of a map stands once and the
numbers are its own. The encoder writes a value without whitespace and escapes
what cannot stand in a string; it fails on a number that no text spells.
-/

namespace JsonText

/-- The members of a map in the order their keys were first assigned. -/
inductive Value (Num : Type) where
  | null
  | bool (b : Bool)
  | num (n : Num)
  | string (s : Text)
  | list (items : List (Value Num))
  | map (members : List (Text × Value Num))

/-- The numbers of a program. What is spelled can be read back; a number that is infinite or none
at all is not spelled. -/
structure Numbers (Num : Type) where
  parse : Text → Num
  spell : Num → Option Text
  isNumber_of_spell : ∀ {n t}, spell n = some t → isNumber t = true
  parse_of_spell : ∀ {n t}, spell n = some t → parse t = n

/-- The numbers as they are spelled. -/
def Numbers.spelled : Numbers Text where
  parse t := t
  spell t := if isNumber t then some t else none
  isNumber_of_spell h := by
    obtain ⟨hn, h⟩ := Option.ite_none_right_eq_some.mp h
    cases h
    exact hn
  parse_of_spell h := by
    obtain ⟨-, h⟩ := Option.ite_none_right_eq_some.mp h
    cases h
    rfl

variable {Num : Type}

/-- The assignment `map[key] = value`. -/
def put (key : Text) (value : Value Num) : List (Text × Value Num) → List (Text × Value Num)
  | [] => [(key, value)]
  | (k, v) :: rest => if k = key then (k, value) :: rest else (k, v) :: put key value rest

section Read

variable (numbers : Numbers Num)

mutual

def read : Json → Value Num
  | .null => .null
  | .bool b => .bool b
  | .number literal => .num (numbers.parse literal)
  | .string s => .string s
  | .array items => .list (readItems items)
  | .object members => .map (readMembers members [])

def readItems : List Json → List (Value Num)
  | [] => []
  | v :: rest => read v :: readItems rest

def readMembers : List (Text × Json) → List (Text × Value Num) → List (Text × Value Num)
  | [], map => map
  | (key, v) :: rest, map => readMembers rest (put key (read v) map)

end

end Read

/-- `jsonDecode` as a program sees it. -/
def jsonDecode (numbers : Numbers Num) (t : Text) : Option (Value Num) :=
  (decode t).map (read numbers)

def isLead (c : UInt16) : Bool := 0xD800 ≤ c && c ≤ 0xDBFF
def isTrail (c : UInt16) : Bool := 0xDC00 ≤ c && c ≤ 0xDFFF

/-- The digits of a unit to the base 16. -/
def nibbles (c : UInt16) : List UInt16 := [c / 4096, c / 256 % 16, c / 16 % 16, c % 16]

def hexUnit (d : UInt16) : UInt16 := if d < 10 then unit '0' + d else unit 'a' + (d - 10)

def hexEscape (c : UInt16) : Text := backslash :: unit 'u' :: (nibbles c).map hexUnit

/-- A half of a surrogate pair whose other half is not beside it. -/
def isLone (previous next : Option UInt16) (c : UInt16) : Bool :=
  isLead c && !next.any isTrail || isTrail c && !previous.any isLead

def escapeUnit (previous next : Option UInt16) (c : UInt16) : Text :=
  if c = 0x08 then [backslash, unit 'b']
  else if c = unit '\t' then [backslash, unit 't']
  else if c = unit '\n' then [backslash, unit 'n']
  else if c = 0x0C then [backslash, unit 'f']
  else if c = unit '\r' then [backslash, unit 'r']
  else if c < 0x20 then hexEscape c
  else if c = quote || c = backslash then [backslash, c]
  else if isLone previous next c then hexEscape c
  else [c]

def escapeUnits (previous : Option UInt16) : Text → Text
  | [] => []
  | c :: t => escapeUnit previous t.head? c ++ escapeUnits (some c) t

def quoted (s : Text) : Text := quote :: escapeUnits none s ++ [quote]

/-- The texts with commas between them. -/
def separated : List Text → Text
  | [] => []
  | [t] => t
  | t :: u :: rest => t ++ unit ',' :: separated (u :: rest)

section Encode

variable (numbers : Numbers Num)

mutual

/-- `jsonEncode`; `none` is the error for what cannot be written. -/
def encode : Value Num → Option Text
  | .null => some (text ['n', 'u', 'l', 'l'])
  | .bool true => some (text ['t', 'r', 'u', 'e'])
  | .bool false => some (text ['f', 'a', 'l', 's', 'e'])
  | .num n => numbers.spell n
  | .string s => some (quoted s)
  | .list items => do
    let ts ← encodeItems items
    return unit '[' :: separated ts ++ [unit ']']
  | .map members => do
    let ts ← encodeMembers members
    return unit '{' :: separated ts ++ [unit '}']

def encodeItems : List (Value Num) → Option (List Text)
  | [] => some []
  | v :: rest => do
    let t ← encode v
    let ts ← encodeItems rest
    return t :: ts

def encodeMembers : List (Text × Value Num) → Option (List Text)
  | [] => some []
  | (key, v) :: rest => do
    let t ← encode v
    let ts ← encodeMembers rest
    return (quoted key ++ unit ':' :: t) :: ts

end

end Encode

/-- `data[key]` -/
def field (data : List (Text × Value Num)) (key : Text) : Value Num :=
  ((data.find? fun m => m.1 = key).map Prod.snd).getD .null

/-- The assignment to a nullable string; `none` is its type error. -/
def nullableString : Value Num → Option (Option Text)
  | .null => some none
  | .string s => some (some s)
  | _ => none

/-- A nullable string as a value. -/
def ofString : Option Text → Value Num
  | none => .null
  | some s => .string s

def nullableBool : Value Num → Option (Option Bool)
  | .null => some none
  | .bool b => some (some b)
  | _ => none

/-- A key stands once in every map of the value. -/
inductive Canonical : Value Num → Prop
  | null : Canonical .null
  | bool (b : Bool) : Canonical (.bool b)
  | num (n : Num) : Canonical (.num n)
  | string (s : Text) : Canonical (.string s)
  | list {items : List (Value Num)} (h : ∀ v ∈ items, Canonical v) : Canonical (.list items)
  | map {members : List (Text × Value Num)} (keys : (members.map Prod.fst).Nodup)
      (h : ∀ m ∈ members, Canonical m.2) : Canonical (.map members)

/-- Every number of the value is spelled. -/
inductive Finite (numbers : Numbers Num) : Value Num → Prop
  | null : Finite numbers .null
  | bool (b : Bool) : Finite numbers (.bool b)
  | num {n : Num} (h : (numbers.spell n).isSome = true) : Finite numbers (.num n)
  | string (s : Text) : Finite numbers (.string s)
  | list {items : List (Value Num)} (h : ∀ v ∈ items, Finite numbers v) :
      Finite numbers (.list items)
  | map {members : List (Text × Value Num)} (h : ∀ m ∈ members, Finite numbers m.2) :
      Finite numbers (.map members)

/-- Induction over the items of lists and the members of maps. -/
@[elab_as_elim]
theorem Value.induction {P : Value Num → Prop} (null : P .null) (bool : ∀ b, P (.bool b))
    (num : ∀ n, P (.num n)) (string : ∀ s, P (.string s))
    (list : ∀ items, (∀ v ∈ items, P v) → P (.list items))
    (map : ∀ members, (∀ m ∈ members, P m.2) → P (.map members)) (v : Value Num) : P v :=
  @Value.rec Num P (fun items => ∀ v ∈ items, P v) (fun members => ∀ m ∈ members, P m.2)
    (fun m => P m.2) null bool num string list map (fun _ hv => nomatch hv)
    (fun _ _ hv hvs => List.forall_mem_cons.mpr ⟨hv, hvs⟩) (fun _ hm => nomatch hm)
    (fun _ _ hm hms => List.forall_mem_cons.mpr ⟨hm, hms⟩) (fun _ _ hv => hv) v

@[elab_as_elim]
theorem Json.induction {P : Json → Prop} (null : P .null) (bool : ∀ b, P (.bool b))
    (number : ∀ t, P (.number t)) (string : ∀ s, P (.string s))
    (array : ∀ items, (∀ v ∈ items, P v) → P (.array items))
    (object : ∀ members, (∀ m ∈ members, P m.2) → P (.object members)) (v : Json) : P v :=
  @Json.rec P (fun items => ∀ v ∈ items, P v) (fun members => ∀ m ∈ members, P m.2)
    (fun m => P m.2) null bool number string array object (fun _ hv => nomatch hv)
    (fun _ _ hv hvs => List.forall_mem_cons.mpr ⟨hv, hvs⟩) (fun _ hm => nomatch hm)
    (fun _ _ hm hms => List.forall_mem_cons.mpr ⟨hm, hms⟩) (fun _ _ hv => hv) v

theorem hexDigit_hexUnit {d : UInt16} (h : d < 16) : hexDigit (hexUnit d) = some d := by
  have all : ∀ n : Fin 16, hexDigit (hexUnit (UInt16.ofNat n)) = some (UInt16.ofNat n) := by
    decide
  have hd := all ⟨d.toNat, UInt16.lt_iff_toNat_lt.mp h⟩
  rwa [UInt16.ofNat_toNat] at hd

theorem nibbles_lt (c : UInt16) : ∀ d ∈ nibbles c, d < 16 := by
  have hc := c.toNat_lt
  intro d hd
  rw [UInt16.lt_iff_toNat_lt]
  rcases hd with _ | ⟨_, _ | ⟨_, _ | ⟨_, _ | ⟨_, hd⟩⟩⟩⟩
  · rw [UInt16.toNat_div]
    change c.toNat / 4096 < 16
    omega
  · rw [UInt16.toNat_mod]
    exact Nat.mod_lt _ (by decide)
  · rw [UInt16.toNat_mod]
    exact Nat.mod_lt _ (by decide)
  · rw [UInt16.toNat_mod]
    exact Nat.mod_lt _ (by decide)
  · cases hd

theorem hexValue_nibbles (c : UInt16) : hexValue (nibbles c) = c := by
  have hc := c.toNat_lt
  apply UInt16.toNat_inj.mp
  simp only [hexValue, nibbles, List.foldl, UInt16.toNat_add, UInt16.toNat_mul, UInt16.toNat_div,
    UInt16.toNat_mod, UInt16.reduceToNat]
  omega

theorem Chars.append {s s' t t' : Text} (h : Chars s t) (h' : Chars s' t') :
    Chars (s ++ s') (t ++ t') := by
  induction h' with
  | nil => simpa using h
  | plain _ hc ih => simpa using ih.plain hc
  | escape _ hd ih => simpa using ih.escape hd
  | hex _ hds four ih => simpa using ih.hex hds four

theorem chars_hexEscape (c : UInt16) : Chars [c] (hexEscape c) := by
  have digits : ((nibbles c).map hexUnit).map hexDigit = (nibbles c).map some := by
    rw [List.map_map]
    exact List.map_congr_left fun d hd => hexDigit_hexUnit (nibbles_lt c d hd)
  have h := Chars.nil.hex digits rfl
  rwa [hexValue_nibbles] at h

/-- Whatever stands beside it, the escape of a unit spells it. -/
theorem chars_escapeUnit (previous next : Option UInt16) (c : UInt16) :
    Chars [c] (escapeUnit previous next c) := by
  have short {c d : UInt16} (h : escaped c = some d) : Chars [d] [backslash, c] :=
    Chars.nil.escape h
  rw [escapeUnit]
  split
  · case isTrue h => exact h ▸ short (by decide)
  split
  · case isTrue h => exact h ▸ short (by decide)
  split
  · case isTrue h => exact h ▸ short (by decide)
  split
  · case isTrue h => exact h ▸ short (by decide)
  split
  · case isTrue h => exact h ▸ short (by decide)
  split
  · exact chars_hexEscape c
  · case isFalse hlow =>
    split
    · case isTrue h =>
      rcases (Bool.or_eq_true _ _).mp h with h | h
      · rw [of_decide_eq_true h]
        exact short (by decide)
      · rw [of_decide_eq_true h]
        exact short (by decide)
    · case isFalse h =>
      split
      · exact chars_hexEscape c
      · refine Chars.nil.plain ?_
        simp only [Bool.or_eq_true, decide_eq_true_eq, not_or] at h
        simp [isPlain, h, UInt16.not_lt.mp hlow]

theorem chars_escapeUnits (previous : Option UInt16) (s : Text) :
    Chars s (escapeUnits previous s) := by
  induction s generalizing previous with
  | nil => exact .nil
  | cons c s ih => exact (chars_escapeUnit previous s.head? c).append (ih (some c))

theorem spells_quoted (s : Text) : Spells (.value (.string s)) (quoted s) :=
  .string (chars_escapeUnits none s)

theorem keys_put (key : Text) (value : Value Num) (map : List (Text × Value Num)) :
    (put key value map).map Prod.fst =
      if key ∈ map.map Prod.fst then map.map Prod.fst else map.map Prod.fst ++ [key] := by
  induction map with
  | nil => rfl
  | cons m rest ih =>
    obtain ⟨k, v⟩ := m
    rw [put]
    by_cases hk : k = key
    · simp [hk]
    · rw [if_neg hk, List.map_cons, ih]
      simp only [List.map_cons, List.mem_cons, Ne.symm hk, false_or]
      split
      · rfl
      · rfl

theorem nodup_put {map : List (Text × Value Num)} (h : (map.map Prod.fst).Nodup) (key : Text)
    (value : Value Num) : ((put key value map).map Prod.fst).Nodup := by
  rw [keys_put]
  split
  · exact h
  · case isFalse hnew =>
    refine List.nodup_append.mpr ⟨h, List.pairwise_singleton _ key, fun k hk k' hk' => ?_⟩
    rintro rfl
    exact hnew (List.mem_singleton.mp hk' ▸ hk)

theorem mem_put {map : List (Text × Value Num)} {key : Text} {value : Value Num}
    {m : Text × Value Num} (h : m ∈ put key value map) : m ∈ map ∨ m.2 = value := by
  induction map with
  | nil =>
    rw [List.mem_singleton.mp h]
    exact Or.inr rfl
  | cons m' rest ih =>
    rw [put] at h
    split at h
    · rcases List.mem_cons.mp h with rfl | h
      · exact Or.inr rfl
      · exact Or.inl (List.mem_cons_of_mem m' h)
    · rcases List.mem_cons.mp h with rfl | h
      · exact Or.inl List.mem_cons_self
      · exact (ih h).imp_left (List.mem_cons_of_mem m')

/-- A new key goes to the end. -/
theorem put_of_notMem {map : List (Text × Value Num)} {key : Text}
    (h : key ∉ map.map Prod.fst) (value : Value Num) :
    put key value map = map ++ [(key, value)] := by
  induction map with
  | nil => rfl
  | cons m rest ih =>
    obtain ⟨k, v⟩ := m
    obtain ⟨hk, hrest⟩ := not_or.mp (List.mem_cons.not.mp h)
    rw [put, if_neg (Ne.symm hk), ih hrest]
    rfl

theorem readItems_eq_map (numbers : Numbers Num) (items : List Json) :
    readItems numbers items = items.map (read numbers) := by
  induction items with
  | nil => rfl
  | cons v rest ih => rw [readItems, ih, List.map_cons]

/-- What is read has every key once. -/
theorem canonical_read (numbers : Numbers Num) (v : Json) : Canonical (read numbers v) := by
  induction v using Json.induction with
  | null => exact .null
  | bool b => exact .bool b
  | number t => exact .num _
  | string s => exact .string s
  | array items ih =>
    rw [read, readItems_eq_map]
    exact .list (List.forall_mem_map.mpr ih)
  | object members ih =>
    have read_members : ∀ map, (map.map Prod.fst).Nodup → (∀ m ∈ map, Canonical m.2) →
        Canonical (.map (readMembers numbers members map)) := by
      induction members with
      | nil => exact fun map keys h => .map keys h
      | cons m rest rest_ih =>
        intro map keys h
        obtain ⟨hm, hrest⟩ := List.forall_mem_cons.mp ih
        refine rest_ih hrest _ (nodup_put keys m.1 _) fun m' hm' => ?_
        rcases mem_put hm' with hm' | hm'
        · exact h m' hm'
        · exact hm' ▸ hm
    exact read_members [] List.nodup_nil fun _ hm => nomatch hm

/-- Members whose keys are new, and differ from each other, are read in their order. -/
theorem readMembers_of_nodup (numbers : Numbers Num) {members : List (Text × Json)}
    {map : List (Text × Value Num)}
    (h : (map.map Prod.fst ++ members.map Prod.fst).Nodup) :
    readMembers numbers members map =
      map ++ members.map fun m => (m.1, read numbers m.2) := by
  induction members generalizing map with
  | nil => rw [readMembers, List.map_nil, List.append_nil]
  | cons m rest ih =>
    obtain ⟨key, v⟩ := m
    have new : key ∉ map.map Prod.fst := fun hk =>
      (List.nodup_append.mp h).2.2 key hk key List.mem_cons_self rfl
    rw [readMembers, put_of_notMem new, ih]
    · simp
    · simpa using h

theorem spells_item {v : Json} {t : Text} (h : Spells (.value v) t) : Spells (.item v) t := by
  simpa using Spells.item blank_nil h blank_nil

theorem items_append {vs ws : List Json} {t u : Text} (hvs : vs ≠ [])
    (h : Spells (.items vs) t) (hv : ws ≠ []) (h' : Spells (.items ws) u) :
    Spells (.items (vs ++ ws)) (t ++ unit ',' :: u) := by
  generalize hp : Phrase.items ws = p at h'
  induction h' generalizing ws with
  | noItems hw => cases hp; exact absurd rfl hv
  | oneItem hi =>
    cases hp
    exact .moreItems hvs h hi
  | moreItems hne hi hx ih =>
    cases hp
    have more := Spells.moreItems (by simp [hvs]) (ih hne rfl) hx
    simpa using more
  | _ => cases hp

theorem members_append {ms ns : List (Text × Json)} {t u : Text} (hms : ms ≠ [])
    (h : Spells (.members ms) t) (hn : ns ≠ []) (h' : Spells (.members ns) u) :
    Spells (.members (ms ++ ns)) (t ++ unit ',' :: u) := by
  generalize hp : Phrase.members ns = p at h'
  induction h' generalizing ns with
  | noMembers hw => cases hp; exact absurd rfl hn
  | oneMember hi =>
    cases hp
    exact .moreMembers hms h hi
  | moreMembers hne hi hx ih =>
    cases hp
    have more := Spells.moreMembers (by simp [hms]) (ih hne rfl) hx
    simpa using more
  | _ => cases hp

/-- Items with commas between them. -/
theorem spells_items {vs : List Json} {ts : List Text}
    (h : List.Forall₂ (fun v t => Spells (.value v) t) vs ts) :
    Spells (.items vs) (separated ts) := by
  induction h with
  | nil => exact .noItems blank_nil
  | @cons v t vs ts hv h ih =>
    cases ts with
    | nil =>
      cases h
      exact .oneItem (spells_item hv)
    | cons u rest =>
      have hne : vs ≠ [] := by
        rintro rfl
        cases h
      exact items_append (List.cons_ne_nil v []) (.oneItem (spells_item hv)) hne ih

theorem spells_members {ms : List (Text × Json)} {ts : List Text}
    (h : List.Forall₂ (fun (m : Text × Json) t => Spells (.member m.1 m.2) t) ms ts) :
    Spells (.members ms) (separated ts) := by
  induction h with
  | nil => exact .noMembers blank_nil
  | @cons m t ms ts hm h ih =>
    cases ts with
    | nil =>
      cases h
      exact .oneMember hm
    | cons u rest =>
      have hne : ms ≠ [] := by
        rintro rfl
        cases h
      exact members_append (List.cons_ne_nil m []) (.oneMember hm) hne ih

theorem spells_quoted_member {key : Text} {v : Json} {t : Text} (h : Spells (.value v) t) :
    Spells (.member key v) (quoted key ++ unit ':' :: t) := by
  have member := Spells.member blank_nil (chars_escapeUnits none key) blank_nil (spells_item h)
  simpa [quoted] using member

theorem encodeItems_eq_some {numbers : Numbers Num} {items : List (Value Num)} {ts : List Text}
    (h : encodeItems numbers items = some ts) :
    List.Forall₂ (fun v t => encode numbers v = some t) items ts := by
  induction items generalizing ts with
  | nil =>
    cases h
    exact .nil
  | cons v rest ih =>
    obtain ⟨t, ht, h⟩ := Option.bind_eq_some_iff.mp h
    obtain ⟨us, hus, h⟩ := Option.bind_eq_some_iff.mp h
    cases h
    exact .cons ht (ih hus)

theorem encodeMembers_eq_some {numbers : Numbers Num} {members : List (Text × Value Num)}
    {ts : List Text} (h : encodeMembers numbers members = some ts) :
    List.Forall₂ (fun m t => ∃ u, encode numbers m.2 = some u ∧ t = quoted m.1 ++ unit ':' :: u)
      members ts := by
  induction members generalizing ts with
  | nil =>
    cases h
    exact .nil
  | cons m rest ih =>
    obtain ⟨t, ht, h⟩ := Option.bind_eq_some_iff.mp h
    obtain ⟨us, hus, h⟩ := Option.bind_eq_some_iff.mp h
    cases h
    exact .cons ⟨t, ht, rfl⟩ (ih hus)

/-- Partners of all items of a list, given one of each. -/
theorem exists_forall₂ {α β γ : Type*} {R : α → β → Prop} {S : γ → β → Prop} {f : γ → α}
    {as : List α} {bs : List β} (h : List.Forall₂ R as bs)
    (each : ∀ a ∈ as, ∀ b, R a b → ∃ c, S c b ∧ f c = a) :
    ∃ cs, List.Forall₂ S cs bs ∧ cs.map f = as := by
  induction h with
  | nil => exact ⟨[], .nil, rfl⟩
  | @cons a b as bs hab _ ih =>
    obtain ⟨ha, has⟩ := List.forall_mem_cons.mp each
    obtain ⟨c, hc, hca⟩ := ha b hab
    obtain ⟨cs, hcs, hmap⟩ := ih has
    exact ⟨c :: cs, .cons hc hcs, by rw [List.map_cons, hca, hmap]⟩

/-- What is written for a value spells something that is read as the value. -/
theorem spells_encode {numbers : Numbers Num} {v : Value Num} (hv : Canonical v) {t : Text}
    (h : encode numbers v = some t) :
    ∃ j, Spells (.value j) t ∧ read numbers j = v := by
  induction v using Value.induction generalizing t with
  | null =>
    cases h
    exact ⟨.null, .null, rfl⟩
  | bool b =>
    cases b with
    | true =>
      cases h
      exact ⟨.bool true, .true, rfl⟩
    | false =>
      cases h
      exact ⟨.bool false, .false, rfl⟩
  | num n =>
    refine ⟨.number t, .number (numbers.isNumber_of_spell h), ?_⟩
    rw [read, numbers.parse_of_spell h]
  | string s =>
    cases h
    exact ⟨.string s, spells_quoted s, rfl⟩
  | list items ih =>
    cases hv with
    | list hv =>
      obtain ⟨ts, hts, h⟩ := Option.bind_eq_some_iff.mp h
      cases h
      obtain ⟨js, hjs, hread⟩ := exists_forall₂ (encodeItems_eq_some hts)
        fun v hmem t ht => ih v hmem (hv v hmem) ht
      refine ⟨.array js, .array (spells_items hjs), ?_⟩
      rw [read, readItems_eq_map, hread]
  | map members ih =>
    cases hv with
    | map keys hv =>
      obtain ⟨ts, hts, h⟩ := Option.bind_eq_some_iff.mp h
      cases h
      have each : ∀ m ∈ members, ∀ t,
          (∃ u, encode numbers m.2 = some u ∧ t = quoted m.1 ++ unit ':' :: u) →
            ∃ j : Text × Json, Spells (.member j.1 j.2) t ∧ (j.1, read numbers j.2) = m := by
        rintro m hmem _ ⟨u, hu, rfl⟩
        obtain ⟨j, hj, hread⟩ := ih m hmem (hv m hmem) hu
        exact ⟨(m.1, j), spells_quoted_member hj, by rw [hread]⟩
      obtain ⟨js, hjs, hread⟩ := exists_forall₂ (encodeMembers_eq_some hts) each
      refine ⟨.object js, .object (spells_members hjs), ?_⟩
      have same : js.map Prod.fst = members.map Prod.fst := by
        rw [← hread, List.map_map]
        rfl
      rw [read, readMembers_of_nodup, List.nil_append, hread]
      rwa [List.map_nil, List.nil_append, same]

/-- What is written is read back. -/
theorem jsonDecode_encode {numbers : Numbers Num} {v : Value Num} (hv : Canonical v) {t : Text}
    (h : encode numbers v = some t) : jsonDecode numbers t = some v := by
  obtain ⟨j, hj, hread⟩ := spells_encode hv h
  rw [jsonDecode, decode_of_isText (spells_item hj), Option.map_some, hread]

theorem canonical_jsonDecode {numbers : Numbers Num} {t : Text} {v : Value Num}
    (h : jsonDecode numbers t = some v) : Canonical v := by
  obtain ⟨j, -, rfl⟩ := Option.map_eq_some_iff.mp h
  exact canonical_read numbers j

theorem encodeItems_isSome_iff {numbers : Numbers Num} {items : List (Value Num)} :
    (encodeItems numbers items).isSome = true ↔
      ∀ v ∈ items, (encode numbers v).isSome = true := by
  induction items with
  | nil => exact iff_of_true rfl fun _ hv => nomatch hv
  | cons v rest ih =>
    rw [List.forall_mem_cons, ← ih, encodeItems]
    cases encode numbers v with
    | none => simp
    | some t => cases encodeItems numbers rest with | none | some ts => simp

theorem encodeMembers_isSome_iff {numbers : Numbers Num} {members : List (Text × Value Num)} :
    (encodeMembers numbers members).isSome = true ↔
      ∀ m ∈ members, (encode numbers m.2).isSome = true := by
  induction members with
  | nil => exact iff_of_true rfl fun _ hm => nomatch hm
  | cons m rest ih =>
    rw [List.forall_mem_cons, ← ih, encodeMembers]
    cases encode numbers m.2 with
    | none => simp
    | some t => cases encodeMembers numbers rest with | none | some ts => simp

/-- A value is written exactly if all its numbers are. -/
theorem encode_isSome_iff {numbers : Numbers Num} {v : Value Num} :
    (encode numbers v).isSome = true ↔ Finite numbers v := by
  induction v using Value.induction with
  | null => exact iff_of_true rfl .null
  | bool b => cases b with | true | false => exact iff_of_true rfl (.bool _)
  | num n =>
    constructor
    · exact .num
    · intro h
      cases h with
      | num h => exact h
  | string s => exact iff_of_true rfl (.string s)
  | list items ih =>
    have same : (encode numbers (.list items)).isSome = (encodeItems numbers items).isSome := by
      rw [encode]
      cases encodeItems numbers items with | none | some ts => rfl
    rw [same, encodeItems_isSome_iff]
    constructor
    · exact fun h => .list fun v hv => (ih v hv).mp (h v hv)
    · intro h v hv
      cases h with
      | list h => exact (ih v hv).mpr (h v hv)
  | map members ih =>
    have same : (encode numbers (.map members)).isSome =
        (encodeMembers numbers members).isSome := by
      rw [encode]
      cases encodeMembers numbers members with | none | some ts => rfl
    rw [same, encodeMembers_isSome_iff]
    constructor
    · exact fun h => .map fun m hm => (ih m hm).mp (h m hm)
    · intro h m hm
      cases h with
      | map h => exact (ih m hm).mpr (h m hm)

theorem canonical_field {data : List (Text × Value Num)} (h : Canonical (.map data))
    (key : Text) : Canonical (field data key) := by
  rw [field]
  cases hfind : data.find? fun m => m.1 = key with
  | none => exact .null
  | some m =>
    cases h with
    | map _ h => exact h m (List.mem_of_find?_eq_some hfind)

end JsonText
