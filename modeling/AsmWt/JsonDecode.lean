import AsmWt.JsonText
import Mathlib.Data.List.Basic

/-!
# What the decoder of JSON texts accepts

One direction goes by the grammar: a phrase leads the decoder from where it may
stand to where the phrase is complete. The other one goes by the units: in every
state the decoder has read a text that the open containers on its stack begin.
-/

namespace JsonText

open Interleaving

/-- The text is over, or something else than a number goes on. -/
def feed (s : State) (t : Text) : Option State := (run step s t).bind settle

theorem complete_between {v : Json} {stack : List Frame} {u : State}
    (h : complete v stack = some u) : u.mode.between = true := by
  rcases stack with _ | ⟨items | members | ⟨members, key⟩, stack⟩
  · cases h
    rfl
  · cases h
    rfl
  · cases v with
    | string k =>
      cases h
      rfl
    | _ => cases h
  · cases h
    rfl

theorem settle_of_between {s : State} (h : s.mode.between = true) : settle s = some s := by
  obtain ⟨mode, stack⟩ := s
  cases mode with
  | number t => cases h
  | _ => rfl

theorem settle_complete (v : Json) (stack : List Frame) :
    (complete v stack).bind settle = complete v stack := by
  cases h : complete v stack with
  | none => rfl
  | some u => exact settle_of_between (complete_between h)

theorem settle_idem {s u : State} (h : settle s = some u) : settle u = some u := by
  obtain ⟨mode, stack⟩ := s
  cases mode with
  | number t =>
    obtain ⟨-, h⟩ := Option.ite_none_right_eq_some.mp h
    exact settle_of_between (complete_between h)
  | _ =>
    cases h
    rfl

/-- A unit that belongs to no number finds the numbers before it complete. -/
theorem step_of_settle {s : State} {c : UInt16} (hc : isNumberUnit c = false) :
    step s c = (settle s).bind fun u => advance u c := by
  obtain ⟨mode, stack⟩ := s
  cases mode with
  | number t => simp [step, hc]
  | _ => rfl

theorem feed_append {c : UInt16} (hc : isNumberUnit c = false) (s : State) (t u : Text) :
    feed s (t ++ c :: u) = (feed s t).bind fun r => feed r (c :: u) := by
  have settled (r : State) : run step r (c :: u) =
      (settle r).bind fun r' => run step r' (c :: u) := by
    rw [run, step_of_settle hc, Option.bind_assoc]
    refine Option.bind_congr fun r' hr' => ?_
    rw [run, step_of_settle hc, settle_idem hr', Option.bind_some]
  rw [feed, feed, run_append, Option.bind_assoc, Option.bind_assoc]
  refine Option.bind_congr fun r _ => ?_
  rw [settled, Option.bind_assoc]
  rfl

theorem feed_cons {s u : State} {c : UInt16} (h : step s c = some u) (t : Text) :
    feed s (c :: t) = feed u t := by
  rw [feed, run, h, Option.bind_some, feed]

/-- A unit that completes a value. -/
theorem feed_last {s : State} {c : UInt16} {v : Json} {stack : List Frame}
    (h : step s c = complete v stack) : feed s [c] = complete v stack := by
  rw [feed, run, h, Option.bind_assoc]
  exact settle_complete v stack

theorem isNumberUnit_of_isBlank {c : UInt16} (h : isBlank c = true) : isNumberUnit c = false := by
  simp only [isBlank, text, List.map, List.contains_eq_mem, List.mem_cons, List.not_mem_nil,
    or_false, decide_eq_true_eq] at h
  rcases h with rfl | rfl | rfl | rfl <;> decide

/-- Whitespace in front of something that starts between two tokens. -/
theorem feed_blank_append {s : State} (h : s.mode.between = true) {w : Text} (hw : Blank w)
    (t : Text) : feed s (w ++ t) = feed s t := by
  induction w with
  | nil => rfl
  | cons c w ih =>
    have hc := hw c List.mem_cons_self
    have skip : step s c = some s := by
      rw [step_of_settle (isNumberUnit_of_isBlank hc), settle_of_between h, Option.bind_some,
        advance, if_pos h, if_pos hc]
    rw [List.cons_append, feed_cons skip]
    exact ih fun d hd => hw d (List.mem_cons_of_mem c hd)

theorem feed_blank {s : State} (h : s.mode.between = true) {w : Text} (hw : Blank w) :
    feed s w = some s := by
  rw [← List.append_nil w, feed_blank_append h hw]
  exact settle_of_between h

/-- Whitespace after something that ends between two tokens. -/
theorem feed_append_blank {s : State} {t w : Text}
    (h : ∀ u, feed s t = some u → u.mode.between = true) (hw : Blank w) :
    feed s (t ++ w) = feed s t := by
  cases w with
  | nil => rw [List.append_nil]
  | cons c w =>
    rw [feed_append (isNumberUnit_of_isBlank (hw c List.mem_cons_self))]
    cases hu : feed s t with
    | none => rfl
    | some u => exact feed_blank (h u hu) hw

theorem isNumberUnit_of_isDigit {c : UInt16} (h : isDigit c = true) : isNumberUnit c = true := by
  simp [isNumberUnit, h]

theorem isNumberUnit_of_contains {cs : List Char} {c : UInt16}
    (all : (text cs).all isNumberUnit = true) (h : (text cs).contains c = true) :
    isNumberUnit c = true :=
  List.all_eq_true.mp all c (List.contains_iff_mem.mp h)

theorem units_cons {c : UInt16} {t : Text} (hc : isNumberUnit c = true)
    (ht : t.all isNumberUnit = true) : (c :: t).all isNumberUnit = true := by
  rw [List.all_cons, hc, ht]
  rfl

/-- Digits are units of a number, and so are all units if those behind the digits are. -/
theorem units_of_afterDigits {t u : Text} (h : afterDigits t = some u)
    (hu : u.all isNumberUnit = true) : t.all isNumberUnit = true := by
  cases t with
  | nil => cases h
  | cons d t =>
    obtain ⟨hd, h⟩ := Option.ite_none_right_eq_some.mp h
    cases h
    have digits : (t.takeWhile isDigit).all isNumberUnit = true := by
      refine List.all_eq_true.mpr fun c hc => isNumberUnit_of_isDigit ?_
      exact List.all_eq_true.mp (List.all_takeWhile (p := isDigit)) c hc
    refine units_cons (isNumberUnit_of_isDigit hd) ?_
    rw [← List.takeWhile_append_dropWhile (p := isDigit) (l := t), List.all_append, digits, hu]
    rfl

theorem units_of_any {t : Text} {rest : Text → Bool}
    (hrest : ∀ u, rest u = true → u.all isNumberUnit = true)
    (h : (afterDigits t).any rest = true) : t.all isNumberUnit = true := by
  obtain ⟨u, hu, h⟩ := (Option.any_eq_true _ _).mp h
  exact units_of_afterDigits hu (hrest u h)

theorem units_of_isPower {t : Text} (h : isPower t = true) : t.all isNumberUnit = true := by
  cases t with
  | nil => rfl
  | cons c t =>
    have h := of_decide_eq_true h
    split at h
    · case isTrue sign =>
      exact units_cons (isNumberUnit_of_contains (by decide) sign) (units_of_afterDigits h rfl)
    · exact units_of_afterDigits h rfl

theorem units_of_isExponent {t : Text} (h : isExponent t = true) : t.all isNumberUnit = true := by
  cases t with
  | nil => rfl
  | cons c t =>
    obtain ⟨hc, h⟩ := (Bool.and_eq_true _ _).mp h
    exact units_cons (isNumberUnit_of_contains (by decide) hc) (units_of_isPower h)

theorem units_of_isFraction {t : Text} (h : isFraction t = true) : t.all isNumberUnit = true := by
  cases t with
  | nil => rfl
  | cons c t =>
    rw [isFraction] at h
    split at h
    · case isTrue hc =>
      have point : isNumberUnit c = true := hc ▸ (by decide)
      exact units_cons point (units_of_any (fun _ => units_of_isExponent) h)
    · exact units_of_isExponent h

theorem units_of_isUnsigned {t : Text} (h : isUnsigned t = true) :
    t.all isNumberUnit = true := by
  cases t with
  | nil => rfl
  | cons c t =>
    rw [isUnsigned] at h
    split at h
    · case isTrue hc =>
      have zero : isNumberUnit c = true := hc ▸ (by decide)
      exact units_cons zero (units_of_isFraction h)
    · exact units_of_any (fun _ => units_of_isFraction) h

theorem units_of_isNumber {t : Text} (h : isNumber t = true) : t.all isNumberUnit = true := by
  cases t with
  | nil => rfl
  | cons c t =>
    rw [isNumber] at h
    split at h
    · case isTrue hc =>
      have sign : isNumberUnit c = true := hc ▸ (by decide)
      exact units_cons sign (units_of_isUnsigned h)
    · exact units_of_isUnsigned h

theorem begin_number {c : UInt16} (h : isNumberUnit c = true) (stack : List Frame) :
    begin c stack = some ⟨.number [c], stack⟩ := by
  have other {d : UInt16} (hd : isNumberUnit d = false) : c ≠ d := by
    rintro rfl
    exact absurd (h.symm.trans hd) (by decide)
  rw [begin, if_neg (other (by decide)), if_neg (other (by decide)), if_neg (other (by decide)),
    if_neg (other (by decide)), if_neg (other (by decide)), if_neg (other (by decide)), if_pos h]

theorem run_number {t u : Text} (h : u.all isNumberUnit = true) (stack : List Frame) :
    run step ⟨.number t, stack⟩ u = some ⟨.number (t ++ u), stack⟩ := by
  induction u generalizing t with
  | nil => rw [List.append_nil, run]
  | cons c u ih =>
    obtain ⟨hc, hu⟩ := (Bool.and_eq_true _ _).mp (List.all_cons ▸ h)
    have add : step ⟨.number t, stack⟩ c = some ⟨.number (t ++ [c]), stack⟩ := if_pos hc
    rw [run, add, Option.bind_some, ih hu, List.append_assoc]
    rfl

theorem isBlank_of_isNumberUnit {c : UInt16} (h : isNumberUnit c = true) : isBlank c = false :=
  Bool.eq_false_iff.mpr fun hb =>
    absurd (h.symm.trans (isNumberUnit_of_isBlank hb)) (by decide)

theorem feed_number {t : Text} (h : isNumber t = true) (stack : List Frame) :
    feed ⟨.value, stack⟩ t = complete (.number t) stack := by
  have units := units_of_isNumber h
  cases t with
  | nil => cases h
  | cons c t =>
    obtain ⟨hc, ht⟩ := (Bool.and_eq_true _ _).mp (List.all_cons ▸ units)
    have first : step ⟨.value, stack⟩ c = some ⟨.number [c], stack⟩ := by
      rw [← begin_number hc stack]
      simp [step, advance, Mode.between, token, isBlank_of_isNumberUnit hc]
    rw [feed, run, first, Option.bind_some, run_number ht, Option.bind_some]
    exact if_pos h

theorem run_hex {cs ds : Text} (h : cs.map hexDigit = ds.map some) (four : ds.length = 4)
    (s : Text) (stack : List Frame) :
    run step ⟨.hex s [], stack⟩ cs = some ⟨.string (s ++ [hexValue ds]), stack⟩ := by
  have four' : cs.length = 4 := by
    rw [← List.length_map hexDigit, h, List.length_map, four]
  obtain ⟨d₁, d₂, d₃, d₄, rfl⟩ := List.length_eq_four.mp four
  obtain ⟨c₁, c₂, c₃, c₄, rfl⟩ := List.length_eq_four.mp four'
  simp only [List.map, List.cons.injEq, and_true] at h
  obtain ⟨h₁, h₂, h₃, h₄⟩ := h
  simp [run, step, advance, Mode.between, inside, h₁, h₂, h₃, h₄]

theorem run_chars {s t : Text} (h : Chars s t) (stack : List Frame) :
    run step ⟨.string [], stack⟩ t = some ⟨.string s, stack⟩ := by
  induction h with
  | nil => rfl
  | @plain s t c _ hc ih =>
    obtain ⟨hq, hb⟩ : c ≠ quote ∧ c ≠ backslash := by simp_all [isPlain]
    rw [run_append, ih, Option.bind_some]
    simp [run, step, advance, Mode.between, inside, hq, hb, hc]
  | @escape s t c d _ hd ih =>
    have hu : c ≠ unit 'u' := by
      rintro rfl
      cases (show escaped (unit 'u') = none by decide).symm.trans hd
    have open_escape : step ⟨.string s, stack⟩ backslash = some ⟨.escape s, stack⟩ := rfl
    rw [run_append, ih, Option.bind_some, run, open_escape, Option.bind_some]
    simp [run, step, advance, Mode.between, inside, hu, hd]
  | @hex s t cs ds _ hds four ih =>
    have open_escape : step ⟨.string s, stack⟩ backslash = some ⟨.escape s, stack⟩ := rfl
    have open_hex : step ⟨.escape s, stack⟩ (unit 'u') = some ⟨.hex s [], stack⟩ := rfl
    rw [run_append, ih, Option.bind_some, run, open_escape, Option.bind_some, run, open_hex,
      Option.bind_some]
    exact run_hex hds four s stack

theorem feed_string {s t : Text} (h : Chars s t) (stack : List Frame) :
    feed ⟨.string [], stack⟩ (t ++ [quote]) = complete (.string s) stack := by
  have last : step ⟨.string s, stack⟩ quote = complete (.string s) stack := rfl
  have more : feed ⟨.string [], stack⟩ (t ++ [quote]) = feed ⟨.string s, stack⟩ [quote] := by
    rw [feed, run_append, run_chars h, Option.bind_some, feed]
  rw [more, feed_last last]

theorem feed_literal {rest : Text} (h : rest ≠ []) (v : Json) (stack : List Frame) :
    feed ⟨.literal rest v, stack⟩ rest = complete v stack := by
  induction rest with
  | nil => exact absurd rfl h
  | cons c rest ih =>
    cases rest with
    | nil =>
      refine feed_last ?_
      simp [step, advance, Mode.between, inside]
    | cons d rest =>
      have one : step ⟨.literal (c :: d :: rest) v, stack⟩ c =
          some ⟨.literal (d :: rest) v, stack⟩ := by
        simp [step, advance, Mode.between, inside]
      rw [feed_cons one]
      exact ih (List.cons_ne_nil d rest)

/-- What a value begins with. -/
theorem value_cons {v : Json} {t : Text} (h : Spells (.value v) t) :
    ∃ c u, t = c :: u ∧ isBlank c = false ∧ c ≠ unit ']' := by
  cases h with
  | null => exact ⟨_, _, rfl, by decide, by decide⟩
  | true => exact ⟨_, _, rfl, by decide, by decide⟩
  | false => exact ⟨_, _, rfl, by decide, by decide⟩
  | number h =>
    have units := units_of_isNumber h
    cases t with
    | nil => cases h
    | cons c t =>
      obtain ⟨hc, -⟩ := (Bool.and_eq_true _ _).mp (List.all_cons ▸ units)
      refine ⟨c, t, rfl, isBlank_of_isNumberUnit hc, ?_⟩
      rintro rfl
      exact absurd hc (by decide)
  | string => exact ⟨_, _, rfl, by decide, by decide⟩
  | array => exact ⟨_, _, rfl, by decide, by decide⟩
  | object => exact ⟨_, _, rfl, by decide, by decide⟩

/-- What a phrase does to the decoder where it may stand. -/
def Reaches : Phrase → Text → Prop
  | .value v, t => ∀ stack, feed ⟨.value, stack⟩ t = complete v stack
  | .item v, t => ∀ stack, feed ⟨.value, stack⟩ t = complete v stack ∧
      feed ⟨.firstItem, stack⟩ t = complete v stack
  | .items vs, t => ∀ stack, feed ⟨.firstItem, .array [] :: stack⟩ t =
      some ⟨if vs = [] then .firstItem else .next, .array vs :: stack⟩
  | .member k v, t => ∀ ms stack,
      feed ⟨.key, .object ms :: stack⟩ t = some ⟨.next, .object (ms ++ [(k, v)]) :: stack⟩ ∧
      feed ⟨.firstKey, .object ms :: stack⟩ t = some ⟨.next, .object (ms ++ [(k, v)]) :: stack⟩
  | .members ms, t => ∀ stack, feed ⟨.firstKey, .object [] :: stack⟩ t =
      some ⟨if ms = [] then .firstKey else .next, .object ms :: stack⟩

theorem spells_reaches {p : Phrase} {t : Text} (h : Spells p t) : Reaches p t := by
  induction h with
  | null => exact fun stack => (feed_cons rfl _).trans (feed_literal (by decide) .null stack)
  | true => exact fun stack => (feed_cons rfl _).trans (feed_literal (by decide) _ stack)
  | false => exact fun stack => (feed_cons rfl _).trans (feed_literal (by decide) _ stack)
  | number h => exact feed_number h
  | string h => exact feed_string h
  | @array vs t _ ih =>
    intro stack
    have opens : step ⟨.value, stack⟩ (unit '[') = some ⟨.firstItem, .array [] :: stack⟩ := rfl
    rw [List.cons_append, feed_cons opens, feed_append (by decide), ih stack, Option.bind_some]
    refine feed_last ?_
    split
    · rfl
    · rfl
  | @object ms t _ ih =>
    intro stack
    have opens : step ⟨.value, stack⟩ (unit '{') = some ⟨.firstKey, .object [] :: stack⟩ := rfl
    rw [List.cons_append, feed_cons opens, feed_append (by decide), ih stack, Option.bind_some]
    refine feed_last ?_
    split
    · rfl
    · rfl
  | @item v w t w' hw hv hw' ih =>
    intro stack
    have padded : feed ⟨.value, stack⟩ (t ++ w') = complete v stack := by
      rw [feed_append_blank, ih stack]
      · exact fun u hu => complete_between (ih stack ▸ hu)
      · exact hw'
    obtain ⟨c, u, rfl, blank, bracket⟩ := value_cons hv
    have same : step ⟨.firstItem, stack⟩ c = step ⟨.value, stack⟩ c := by
      simp [step, advance, Mode.between, token, blank, bracket]
    rw [List.append_assoc, feed_blank_append rfl hw, feed_blank_append rfl hw]
    refine ⟨padded, ?_⟩
    rw [← padded, feed, feed, List.cons_append, run, run, same]
  | noItems hw =>
    intro stack
    exact feed_blank rfl hw
  | @oneItem v t _ ih =>
    intro stack
    rw [(ih _).2]
    rfl
  | @moreItems vs v t u hvs _ _ ih ih' =>
    intro stack
    rw [feed_append (by decide), ih stack, if_neg hvs, Option.bind_some, feed_cons (show
      step ⟨.next, .array vs :: stack⟩ (unit ',') = some ⟨.value, .array vs :: stack⟩ from rfl),
      (ih' _).1, if_neg (by simp)]
    rfl
  | @member k v w t w' u hw hk hw' hv ih =>
    intro ms stack
    have named {mode : Mode} (between : mode.between = true)
        (opens : step ⟨mode, .object ms :: stack⟩ quote =
          some ⟨.string [], .object ms :: stack⟩) :
        feed ⟨mode, .object ms :: stack⟩ (w ++ quote :: t ++ quote :: w' ++ unit ':' :: u) =
          some ⟨.next, .object (ms ++ [(k, v)]) :: stack⟩ := by
      have key : feed ⟨mode, .object ms :: stack⟩ (w ++ quote :: (t ++ [quote])) =
          some ⟨.colon, .member ms k :: stack⟩ := by
        rw [feed_blank_append between hw, feed_cons opens, feed_string hk]
        rfl
      have split : w ++ quote :: t ++ quote :: w' = w ++ quote :: (t ++ [quote]) ++ w' := by simp
      have colon : step ⟨.colon, .member ms k :: stack⟩ (unit ':') =
          some ⟨.value, .member ms k :: stack⟩ := rfl
      rw [feed_append (by decide), split, feed_append_blank _ hw', key, Option.bind_some,
        feed_cons colon, (ih _).1]
      · rfl
      · intro r hr
        cases key.symm.trans hr
        rfl
    exact ⟨named rfl rfl, named rfl rfl⟩
  | noMembers hw =>
    intro stack
    exact feed_blank rfl hw
  | @oneMember k v t _ ih =>
    intro stack
    exact (ih [] stack).2
  | @moreMembers ms k v t u hms _ _ ih ih' =>
    intro stack
    rw [feed_append (by decide), ih stack, if_neg hms, Option.bind_some, feed_cons (show
      step ⟨.next, .object ms :: stack⟩ (unit ',') = some ⟨.key, .object ms :: stack⟩ from rfl),
      (ih' ms stack).1, if_neg (by simp)]

/-- A value with whitespace around it. -/
def IsText (v : Json) (t : Text) : Prop := Spells (.item v) t

theorem decode_of_isText {v : Json} {t : Text} (h : IsText v t) : decode t = some v := by
  have read := (spells_reaches h []).1
  rw [decode, ← feed, read]
  rfl

/-- What has been read when a value may come, in an open object a key. -/
inductive Before : List Frame → Text → Prop
  | top {w : Text} (hw : Blank w) : Before [] w
  | firstItem {stack : List Frame} {p w : Text} (h : Before stack p) (hw : Blank w) :
      Before (.array [] :: stack) (p ++ unit '[' :: w)
  | nextItem {stack : List Frame} {vs : List Json} {p q w : Text} (h : Before stack p)
      (hvs : vs ≠ []) (hq : Spells (.items vs) q) (hw : Blank w) :
      Before (.array vs :: stack) (p ++ unit '[' :: (q ++ unit ',' :: w))
  | firstKey {stack : List Frame} {p w : Text} (h : Before stack p) (hw : Blank w) :
      Before (.object [] :: stack) (p ++ unit '{' :: w)
  | nextKey {stack : List Frame} {ms : List (Text × Json)} {p q w : Text} (h : Before stack p)
      (hms : ms ≠ []) (hq : Spells (.members ms) q) (hw : Blank w) :
      Before (.object ms :: stack) (p ++ unit '{' :: (q ++ unit ',' :: w))
  | member {stack : List Frame} {ms : List (Text × Json)} {k p q w w' : Text}
      (h : Before (.object ms :: stack) p) (hk : Chars k q) (hw : Blank w) (hw' : Blank w') :
      Before (.member ms k :: stack) (p ++ (quote :: q ++ quote :: w ++ unit ':' :: w'))

/-- What has been read when an item or a member is complete. -/
inductive After : List Frame → Text → Prop
  | item {stack : List Frame} {vs : List Json} {p q : Text} (h : Before stack p) (hvs : vs ≠ [])
      (hq : Spells (.items vs) q) : After (.array vs :: stack) (p ++ unit '[' :: q)
  | member {stack : List Frame} {ms : List (Text × Json)} {p q : Text} (h : Before stack p)
      (hms : ms ≠ []) (hq : Spells (.members ms) q) :
      After (.object ms :: stack) (p ++ unit '{' :: q)

/-- The text that leads the decoder to a state. -/
def Reads (s : State) (t : Text) : Prop :=
  match s.mode with
  | .value | .key => Before s.stack t
  | .firstItem => Before s.stack t ∧ ∃ stack, s.stack = .array [] :: stack
  | .firstKey => Before s.stack t ∧ ∃ stack, s.stack = .object [] :: stack
  | .colon => ∃ ms k stack p q w, s.stack = .member ms k :: stack ∧
      Before (.object ms :: stack) p ∧ Chars k q ∧ Blank w ∧ t = p ++ (quote :: q ++ quote :: w)
  | .next => After s.stack t
  | .done v => s.stack = [] ∧ IsText v t
  | .string s' => ∃ p q, Before s.stack p ∧ Chars s' q ∧ t = p ++ quote :: q
  | .escape s' => ∃ p q, Before s.stack p ∧ Chars s' q ∧ t = p ++ quote :: (q ++ [backslash])
  | .hex s' ds => ∃ p q cs, Before s.stack p ∧ Chars s' q ∧ cs.map hexDigit = ds.map some ∧
      ds.length < 4 ∧ t = p ++ quote :: (q ++ backslash :: unit 'u' :: cs)
  | .literal rest v => ∃ p q, Before s.stack p ∧ Spells (.value v) (q ++ rest) ∧ t = p ++ q
  | .number q => ∃ p, Before s.stack p ∧ t = p ++ q

theorem Blank.append {w w' : Text} (hw : Blank w) (hw' : Blank w') : Blank (w ++ w') := by
  intro c hc
  rcases List.mem_append.mp hc with hc | hc
  · exact hw c hc
  · exact hw' c hc

theorem blank_nil : Blank [] := fun _ hc => nomatch hc

theorem Before.append_blank {stack : List Frame} {t w : Text} (h : Before stack t)
    (hw : Blank w) : Before stack (t ++ w) := by
  cases h with
  | top hw' => exact .top (hw'.append hw)
  | firstItem h hw' =>
    rw [List.append_assoc]
    exact .firstItem h (hw'.append hw)
  | nextItem h hvs hq hw' =>
    simpa using Before.nextItem h hvs hq (hw'.append hw)
  | firstKey h hw' =>
    rw [List.append_assoc]
    exact .firstKey h (hw'.append hw)
  | nextKey h hms hq hw' =>
    simpa using Before.nextKey h hms hq (hw'.append hw)
  | member h hk hw' hw'' =>
    simpa using Before.member h hk hw' (hw''.append hw)

theorem item_append_blank {v : Json} {t w : Text} (h : Spells (.item v) t) (hw : Blank w) :
    Spells (.item v) (t ++ w) := by
  cases h with
  | item hw' h hw'' =>
    rw [List.append_assoc]
    exact .item hw' h (hw''.append hw)

theorem items_append_blank {vs : List Json} {t w : Text} (h : Spells (.items vs) t)
    (hw : Blank w) : Spells (.items vs) (t ++ w) := by
  cases h with
  | noItems hw' => exact .noItems (hw'.append hw)
  | oneItem h => exact .oneItem (item_append_blank h hw)
  | moreItems hvs h hv =>
    rw [List.append_assoc]
    exact .moreItems hvs h (item_append_blank hv hw)

theorem member_append_blank {k : Text} {v : Json} {t w : Text} (h : Spells (.member k v) t)
    (hw : Blank w) : Spells (.member k v) (t ++ w) := by
  cases h with
  | member hw' hk hw'' hv =>
    rw [List.append_assoc]
    exact .member hw' hk hw'' (item_append_blank hv hw)

theorem members_append_blank {ms : List (Text × Json)} {t w : Text}
    (h : Spells (.members ms) t) (hw : Blank w) : Spells (.members ms) (t ++ w) := by
  cases h with
  | noMembers hw' => exact .noMembers (hw'.append hw)
  | oneMember h => exact .oneMember (member_append_blank h hw)
  | moreMembers hms h hv =>
    rw [List.append_assoc]
    exact .moreMembers hms h (member_append_blank hv hw)

theorem After.append_blank {stack : List Frame} {t w : Text} (h : After stack t)
    (hw : Blank w) : After stack (t ++ w) := by
  cases h with
  | item h hvs hq =>
    rw [List.append_assoc]
    exact .item h hvs (items_append_blank hq hw)
  | member h hms hq =>
    rw [List.append_assoc]
    exact .member h hms (members_append_blank hq hw)

theorem complete_reads {v : Json} {stack : List Frame} {p q : Text} {u : State}
    (h : Before stack p) (hv : Spells (.value v) q) (hu : complete v stack = some u) :
    Reads u (p ++ q) := by
  have item {w : Text} (hw : Blank w) : Spells (.item v) (w ++ q) := by
    simpa using Spells.item hw hv blank_nil
  cases h with
  | top hw =>
    cases hu
    exact ⟨rfl, item hw⟩
  | firstItem h hw =>
    cases hu
    rw [List.append_assoc]
    exact .item h (List.cons_ne_nil _ _) (.oneItem (item hw))
  | nextItem h hvs hq hw =>
    cases hu
    have more := Spells.moreItems hvs hq (item hw)
    simpa [Reads] using After.item h (by simp) more
  | firstKey h hw =>
    cases hv with
    | string hk =>
      cases hu
      exact ⟨_, _, _, _, _, [], rfl, .firstKey h hw, hk, blank_nil, rfl⟩
    | _ => cases hu
  | nextKey h hms hq hw =>
    cases hv with
    | string hk =>
      cases hu
      exact ⟨_, _, _, _, _, [], rfl, .nextKey h hms hq hw, hk, blank_nil, rfl⟩
    | _ => cases hu
  | member h hk hw hw' =>
    cases hu
    cases h with
    | firstKey h hw'' =>
      have one := Spells.oneMember (.member hw'' hk hw (item hw'))
      simpa [Reads] using After.member h (by simp) one
    | nextKey h hms hq hw'' =>
      have more := Spells.moreMembers hms hq (.member hw'' hk hw (item hw'))
      simpa [Reads] using After.member h (by simp) more

theorem begin_reads {stack : List Frame} {t : Text} {c : UInt16} {u : State}
    (h : Before stack t) (hu : begin c stack = some u) : Reads u (t ++ [c]) := by
  rw [begin] at hu
  split at hu
  · case isTrue hc =>
    cases hu
    rw [hc]
    exact ⟨.firstItem h blank_nil, stack, rfl⟩
  split at hu
  · case isTrue hc =>
    cases hu
    rw [hc]
    exact ⟨.firstKey h blank_nil, stack, rfl⟩
  split at hu
  · case isTrue hc =>
    cases hu
    rw [hc]
    exact ⟨t, [], h, .nil, rfl⟩
  split at hu
  · case isTrue hc =>
    cases hu
    rw [hc]
    exact ⟨t, text ['n'], h, .null, rfl⟩
  split at hu
  · case isTrue hc =>
    cases hu
    rw [hc]
    exact ⟨t, text ['t'], h, .true, rfl⟩
  split at hu
  · case isTrue hc =>
    cases hu
    rw [hc]
    exact ⟨t, text ['f'], h, .false, rfl⟩
  split at hu
  · cases hu
    exact ⟨t, h, rfl⟩
  · cases hu

theorem beginKey_reads {stack : List Frame} {t : Text} {c : UInt16} {u : State}
    (h : Before stack t) (hu : beginKey c stack = some u) : Reads u (t ++ [c]) := by
  obtain ⟨rfl, hu⟩ := Option.ite_none_right_eq_some.mp hu
  cases hu
  exact ⟨t, [], h, .nil, rfl⟩

theorem close_reads {stack : List Frame} {t : Text} {c : UInt16} {u : State}
    (h : After stack t) (hu : close c stack = some u) : Reads u (t ++ [c]) := by
  cases h with
  | item h _ hq =>
    obtain ⟨rfl, hu⟩ := Option.ite_none_right_eq_some.mp hu
    simpa using complete_reads h (.array hq) hu
  | member h _ hq =>
    obtain ⟨rfl, hu⟩ := Option.ite_none_right_eq_some.mp hu
    simpa using complete_reads h (.object hq) hu

theorem separate_reads {stack : List Frame} {t : Text} {c : UInt16} {u : State}
    (h : After stack t) (hu : separate c stack = some u) : Reads u (t ++ [c]) := by
  unfold separate at hu
  split at hu
  · case isTrue hc =>
    cases h with
    | item h hvs hq =>
      cases hu
      rw [hc, List.append_assoc]
      exact .nextItem h hvs hq blank_nil
    | member h hms hq =>
      cases hu
      rw [hc, List.append_assoc]
      exact .nextKey h hms hq blank_nil
  · exact close_reads h hu

theorem token_reads {s u : State} {t : Text} {c : UInt16} (h : Reads s t)
    (hu : token s c = some u) : Reads u (t ++ [c]) := by
  obtain ⟨mode, stack⟩ := s
  cases mode with
  | value => exact begin_reads h hu
  | firstItem =>
    obtain ⟨h, stack, rfl⟩ := h
    simp only [token] at hu
    split at hu
    · case isTrue hc =>
      cases hc
      cases h with
      | firstItem h hw => simpa using complete_reads h (.array (.noItems hw)) hu
      | nextItem _ hvs => exact absurd rfl hvs
    · exact begin_reads h hu
  | firstKey =>
    obtain ⟨h, stack, rfl⟩ := h
    simp only [token] at hu
    split at hu
    · case isTrue hc =>
      cases hc
      cases h with
      | firstKey h hw => simpa using complete_reads h (.object (.noMembers hw)) hu
      | nextKey _ hms => exact absurd rfl hms
    · exact beginKey_reads h hu
  | key => exact beginKey_reads h hu
  | colon =>
    obtain ⟨ms, k, stack, p, q, w, rfl, h, hk, hw, rfl⟩ := h
    obtain ⟨rfl, hu⟩ := Option.ite_none_right_eq_some.mp hu
    cases hu
    simpa [Reads] using Before.member h hk hw blank_nil
  | next => exact separate_reads h hu
  | _ => cases hu

theorem blank_reads {s : State} {t : Text} {c : UInt16} (between : s.mode.between = true)
    (h : Reads s t) (hc : isBlank c = true) : Reads s (t ++ [c]) := by
  have hw : Blank [c] := by
    rintro d hd
    cases List.mem_singleton.mp hd
    exact hc
  obtain ⟨mode, stack⟩ := s
  cases mode with
  | value => exact Before.append_blank h hw
  | key => exact Before.append_blank h hw
  | firstItem => exact ⟨h.1.append_blank hw, h.2⟩
  | firstKey => exact ⟨h.1.append_blank hw, h.2⟩
  | colon =>
    obtain ⟨ms, k, stack, p, q, w, rfl, h, hk, hw', rfl⟩ := h
    exact ⟨ms, k, stack, p, q, w ++ [c], rfl, h, hk, hw'.append hw, by simp⟩
  | next => exact After.append_blank h hw
  | done v => exact ⟨h.1, item_append_blank h.2 hw⟩
  | _ => cases between

theorem inside_reads {s u : State} {t : Text} {c : UInt16} (h : Reads s t)
    (hu : inside s c = some u) : Reads u (t ++ [c]) := by
  obtain ⟨mode, stack⟩ := s
  cases mode with
  | string s =>
    obtain ⟨p, q, h, hs, rfl⟩ := h
    simp only [inside] at hu
    split at hu
    · case isTrue hc =>
      cases hc
      simpa using complete_reads h (.string hs) hu
    split at hu
    · case isTrue hc =>
      cases hc
      cases hu
      exact ⟨p, q, h, hs, by simp⟩
    · obtain ⟨hc, hu⟩ := Option.ite_none_right_eq_some.mp hu
      cases hu
      exact ⟨p, q ++ [c], h, .plain hs hc, by simp⟩
  | escape s =>
    obtain ⟨p, q, h, hs, rfl⟩ := h
    simp only [inside] at hu
    split at hu
    · case isTrue hc =>
      cases hc
      cases hu
      exact ⟨p, q, [], h, hs, rfl, by decide, by simp⟩
    · obtain ⟨d, hd, rfl⟩ := Option.map_eq_some_iff.mp hu
      exact ⟨p, q ++ [backslash, c], h, .escape hs hd, by simp⟩
  | hex s ds =>
    obtain ⟨p, q, cs, h, hs, hds, four, rfl⟩ := h
    obtain ⟨d, hd, rfl⟩ := Option.map_eq_some_iff.mp hu
    have more : (cs ++ [c]).map hexDigit = (ds ++ [d]).map some := by
      simp [hds, hd]
    split
    · case isTrue last =>
      exact ⟨p, _, h, .hex hs more (by simp [last]), by simp⟩
    · case isFalse last =>
      have four' : (ds ++ [d]).length < 4 := by
        simp only [List.length_append, List.length_cons, List.length_nil]
        omega
      exact ⟨p, q, cs ++ [c], h, hs, more, four', by simp⟩
  | literal rest v =>
    obtain ⟨p, q, h, hv, rfl⟩ := h
    cases rest with
    | nil => cases hu
    | cons d rest =>
      obtain ⟨rfl, hu⟩ := Option.ite_none_right_eq_some.mp hu
      by_cases hrest : rest = []
      · cases hrest
        simpa using complete_reads h hv hu
      · cases (if_neg hrest).symm.trans hu
        exact ⟨p, q ++ [c], h, by simpa using hv, by simp⟩
  | _ => cases hu

theorem advance_reads {s u : State} {t : Text} {c : UInt16} (h : Reads s t)
    (hu : advance s c = some u) : Reads u (t ++ [c]) := by
  rw [advance] at hu
  split at hu
  · case isTrue between =>
    split at hu
    · case isTrue hc =>
      cases hu
      exact blank_reads between h hc
    · exact token_reads h hu
  · exact inside_reads h hu

theorem settle_reads {s u : State} {t : Text} (h : Reads s t) (hu : settle s = some u) :
    Reads u t := by
  obtain ⟨mode, stack⟩ := s
  cases mode with
  | number q =>
    obtain ⟨p, h, rfl⟩ := h
    obtain ⟨hq, hu⟩ := Option.ite_none_right_eq_some.mp hu
    exact complete_reads h (.number hq) hu
  | _ =>
    cases hu
    exact h

theorem step_reads {s u : State} {t : Text} {c : UInt16} (h : Reads s t)
    (hu : step s c = some u) : Reads u (t ++ [c]) := by
  cases hc : isNumberUnit c with
  | false =>
    rw [step_of_settle hc] at hu
    obtain ⟨r, hr, hu⟩ := Option.bind_eq_some_iff.mp hu
    exact advance_reads (settle_reads h hr) hu
  | true =>
    obtain ⟨mode, stack⟩ := s
    cases mode with
    | number q =>
      obtain ⟨p, h, rfl⟩ := h
      cases (if_pos hc).symm.trans hu
      exact ⟨p, h, by simp⟩
    | _ => exact advance_reads h hu

theorem run_reads {s u : State} {t r : Text} (h : Reads s t) (hu : run step s r = some u) :
    Reads u (t ++ r) := by
  induction r generalizing s t with
  | nil =>
    cases hu
    rwa [List.append_nil]
  | cons c r ih =>
    obtain ⟨v, hv, hu⟩ := Option.bind_eq_some_iff.mp hu
    simpa using ih (step_reads h hv) hu

/-- The decoder accepts the texts of the grammar, with the value they spell. -/
theorem decode_eq_some_iff {v : Json} {t : Text} : decode t = some v ↔ IsText v t := by
  refine ⟨fun h => ?_, decode_of_isText⟩
  obtain ⟨u, hu, h⟩ := Option.bind_eq_some_iff.mp h
  obtain ⟨s, hs, hu⟩ := Option.bind_eq_some_iff.mp hu
  have start : Reads ⟨.value, []⟩ [] := .top blank_nil
  have read := settle_reads (run_reads start hs) hu
  obtain ⟨mode, stack⟩ := u
  cases mode with
  | done w =>
    cases h
    exact read.2
  | _ => cases h

end JsonText
