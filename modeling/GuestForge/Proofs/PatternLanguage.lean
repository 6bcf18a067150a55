import GuestForge.Text.Glob
import Mathlib.Data.Char
import Mathlib.Order.Basic
set_option autoImplicit false

/-!
# The language of a pattern

A pattern stands for a set of names, given by recursion on the pattern: a star for any run of characters, a question mark
for one, a closed set for one that the set takes, and everything else for itself. Deciding a pattern in one pass over its
tokens comes to the same. How a set takes a character is kept apart from the rest, as it is not all that is written there:
once spans that run backwards are dropped, an exclamation mark that comes to stand at the head negates the set.
-/
namespace GuestForge.Text.Glob

/-- The text behind an opening bracket closes the set: a mark or none, what is listed, and what follows. At the head of
what is listed a closing bracket does not close. -/
inductive Closes : List Char → Bool → List Char → List Char → Prop
  | marked {first : Char} {others rest : List Char} (opened : ']' ∉ others) :
      Closes ('!' :: first :: others ++ ']' :: rest) true (first :: others) rest
  | unmarked {first : Char} {others rest : List Char} (plain : first ≠ '!') (opened : ']' ∉ others) :
      Closes (first :: others ++ ']' :: rest) false (first :: others) rest

/-- What is listed, from left to right: a hyphen between two characters makes a span of them. -/
inductive Lists : List Char → List Item → Prop
  | nil : Lists [] []
  | span {low high : Char} {rest : List Char} {items : List Item} (next : Lists rest items) :
      Lists (low :: '-' :: high :: rest) (.span low high :: items)
  | single {c : Char} {rest : List Char} {items : List Item} (alone : ∀ high more, rest ≠ '-' :: high :: more)
      (next : Lists rest items) : Lists (c :: rest) (.single c :: items)

def Listed (items : List Item) (c : Char) : Prop := ∃ item ∈ items, item.contains c = true

def AsWritten (mark : Bool) (items : List Item) (c : Char) : Prop := Listed items c ↔ mark = false

/-- Only spans that run backwards stand before an exclamation mark; the rest is what is listed behind it. If it begins a
span, the hyphen and the end of that are characters of their own. -/
inductive Uncovers : List Item → List Item → Prop
  | single {before rest : List Item} (backwards : ∀ item ∈ before, item.isEmpty = true) :
      Uncovers (before ++ .single '!' :: rest) rest
  | span {before rest : List Item} {high : Char} (backwards : ∀ item ∈ before, item.isEmpty = true)
      (forwards : '!' ≤ high) :
      Uncovers (before ++ .span '!' high :: rest) (.single '-' :: .single high :: rest)

/-- A set takes what is written there, unless a mark is uncovered in it: then it takes what is not listed behind that. -/
def Takes (mark : Bool) (items : List Item) (c : Char) : Prop :=
  (mark = false ∧ ∃ others, Uncovers items others ∧ ¬ Listed others c) ∨
    ((mark = false → ∀ others, ¬ Uncovers items others) ∧ AsWritten mark items c)

inductive InLanguage (takes : Bool → List Item → Char → Prop) : List Char → List Char → Prop
  | nil : InLanguage takes [] []
  | anyRun {pattern name : List Char} (run : List Char) (next : InLanguage takes pattern name) :
      InLanguage takes ('*' :: pattern) (run ++ name)
  | anyChar {pattern name : List Char} (c : Char) (next : InLanguage takes pattern name) :
      InLanguage takes ('?' :: pattern) (c :: name)
  | oneOf {text body pattern name : List Char} {mark : Bool} {items : List Item} {c : Char}
      (closes : Closes text mark body pattern) (lists : Lists body items) (taken : takes mark items c)
      (next : InLanguage takes pattern name) : InLanguage takes ('[' :: text) (c :: name)
  | literal {c : Char} {pattern name : List Char} (star : c ≠ '*') (question : c ≠ '?')
      (bracket : c = '[' → ∀ mark body rest, ¬ Closes pattern mark body rest) (next : InLanguage takes pattern name) :
      InLanguage takes (c :: pattern) (c :: name)

theorem lists_readItems (body : List Char) : Lists body (readItems body) := by
  induction body using readItems.induct with
  | case1 => exact .nil
  | case2 c => exact .single (by simp) .nil
  | case3 c d => exact .single (by simp) (.single (by simp) .nil)
  | case4 c e rest ih =>
    rw [readItems, if_pos rfl]
    exact .span ih
  | case5 c d e rest h ih =>
    rw [readItems, if_neg h]
    exact .single (by simp [h]) ih

theorem readItems_eq_iff {body : List Char} {items : List Item} : readItems body = items ↔ Lists body items := by
  constructor
  · rintro rfl
    exact lists_readItems body
  · intro h
    induction h with
    | nil => rfl
    | span _ ih => rw [readItems, if_pos rfl, ih]
    | @single c rest items alone _ ih =>
      rw [← ih]
      match rest with
      | [] => rfl
      | [d] => rfl
      | d :: e :: more =>
        have hd : d ≠ '-' := fun hd => alone e more (by rw [hd])
        rw [readItems, if_neg hd]

def markText : Bool → List Char
  | true => ['!']
  | false => []

def unmarkedBody? : List Char → Option (List Char)
  | [] => none
  | first :: rest => if ']' ∈ rest then some (first :: rest.takeWhile (· ≠ ']')) else none

theorem unmarkedBody?_eq_some {text body : List Char} : unmarkedBody? text = some body ↔
    ∃ first others rest, text = first :: others ++ ']' :: rest ∧ ']' ∉ others ∧ body = first :: others := by
  have htake : ∀ {others rest : List Char}, ']' ∉ others → (others ++ ']' :: rest).takeWhile (· ≠ ']') = others := by
    intro others rest hothers
    rw [List.takeWhile_append_of_pos]
    · simp
    · intro c hc
      simp only [ne_eq, decide_eq_true_eq]
      rintro rfl
      exact hothers hc
  constructor
  · intro h
    cases text with
    | nil => cases h
    | cons first more =>
      by_cases hclosing : ']' ∈ more
      · obtain ⟨others, rest, rfl, hothers⟩ := List.eq_append_cons_of_mem hclosing
        rw [unmarkedBody?, if_pos hclosing, htake hothers, Option.some.injEq] at h
        exact ⟨first, others, rest, rfl, hothers, h.symm⟩
      · rw [unmarkedBody?, if_neg hclosing] at h
        cases h
  · rintro ⟨first, others, rest, rfl, hothers, rfl⟩
    have hclosing : ']' ∈ others ++ ']' :: rest := by simp
    rw [List.cons_append, unmarkedBody?, if_pos hclosing, htake hothers]

/-- Unless a closing bracket is at the head, it makes no difference to begin there. -/
theorem unmarkedBody?_of_ne {first : Char} (h : first ≠ ']') (rest : List Char) : unmarkedBody? (first :: rest) =
    if ']' ∈ first :: rest then some ((first :: rest).takeWhile (· ≠ ']')) else none := by
  simp [unmarkedBody?, h, Ne.symm h]

theorem setBody?_marked (text : List Char) : setBody? ('!' :: text) = (unmarkedBody? text).map ('!' :: ·) := by
  cases text with
  | nil => rfl
  | cons first rest =>
    by_cases hfirst : first = ']'
    · simp [setBody?, unmarkedBody?, hfirst, Option.map_if]
    · simp [setBody?, unmarkedBody?_of_ne hfirst, hfirst, Option.map_if]

theorem setBody?_unmarked {text : List Char} (h : text.head? ≠ some '!') : setBody? text = unmarkedBody? text := by
  cases text with
  | nil => rfl
  | cons first rest =>
    have hmark : first ≠ '!' := by simpa using h
    by_cases hfirst : first = ']'
    · simp [setBody?, unmarkedBody?, hfirst]
    · simp [setBody?, unmarkedBody?_of_ne hfirst, hmark, hfirst]

theorem setBody?_eq_some {text written : List Char} : setBody? text = some written ↔
    ∃ mark body rest, Closes text mark body rest ∧ written = markText mark ++ body := by
  constructor
  · intro h
    by_cases hmark : text.head? = some '!'
    · obtain ⟨more, rfl⟩ := List.head?_eq_some_iff.1 hmark
      rw [setBody?_marked, Option.map_eq_some_iff] at h
      obtain ⟨body, hbody, rfl⟩ := h
      obtain ⟨first, others, rest, rfl, hothers, rfl⟩ := unmarkedBody?_eq_some.1 hbody
      exact ⟨true, _, rest, .marked hothers, rfl⟩
    · rw [setBody?_unmarked hmark] at h
      obtain ⟨first, others, rest, rfl, hothers, rfl⟩ := unmarkedBody?_eq_some.1 h
      exact ⟨false, _, rest, .unmarked (by simpa using hmark) hothers, rfl⟩
  · rintro ⟨mark, body, rest, hcloses, rfl⟩
    cases hcloses with
    | @marked first others _ opened =>
      have hbody := unmarkedBody?_eq_some.2 ⟨first, others, rest, rfl, opened, rfl⟩
      exact (setBody?_marked _).trans (congrArg (Option.map ('!' :: ·)) hbody)
    | @unmarked first others _ plain opened =>
      have hbody := unmarkedBody?_eq_some.2 ⟨first, others, rest, rfl, opened, rfl⟩
      exact (setBody?_unmarked (by simpa using plain)).trans hbody

theorem Closes.text_eq {text body rest : List Char} {mark : Bool} (h : Closes text mark body rest) :
    text = markText mark ++ body ++ ']' :: rest := by
  cases h <;> rfl

theorem Closes.head_ne {text body rest : List Char} (h : Closes text false body rest) : body.head? ≠ some '!' := by
  cases h with
  | unmarked plain _ => simpa using plain

theorem Closes.unique {text body rest body' rest' : List Char} {mark mark' : Bool} (h : Closes text mark body rest)
    (h' : Closes text mark' body' rest') : mark = mark' ∧ body = body' ∧ rest = rest' := by
  have hsome := setBody?_eq_some.2 ⟨mark, body, rest, h, rfl⟩
  have hwritten : markText mark ++ body = markText mark' ++ body' := by
    rw [setBody?_eq_some.2 ⟨mark', body', rest', h', rfl⟩, Option.some.injEq] at hsome
    exact hsome.symm
  have hrest : rest = rest' := by
    have htext := h.text_eq.symm.trans h'.text_eq
    rw [hwritten] at htext
    simpa using htext
  cases mark with
  | true =>
    cases mark' with
    | true => exact ⟨rfl, by simpa [markText] using hwritten, hrest⟩
    | false => exact absurd (by rw [← show _ = body' from hwritten]; rfl) h'.head_ne
  | false =>
    cases mark' with
    | true => exact absurd (by rw [show body = _ from hwritten]; rfl) h.head_ne
    | false => exact ⟨rfl, hwritten, hrest⟩

theorem not_contains_of_isEmpty {item : Item} (h : item.isEmpty = true) (c : Char) : item.contains c = false := by
  cases item with
  | single d => cases h
  | span low high =>
    have hhigh : high < low := by simpa [Item.isEmpty] using h
    simp only [Item.contains, Bool.and_eq_false_imp, decide_eq_true_eq, decide_eq_false_iff_not, not_le]
    exact fun hlow => lt_of_lt_of_le hhigh hlow

def kept (items : List Item) : List Item := items.filter fun item => !item.isEmpty

theorem listed_kept {items : List Item} {c : Char} : (kept items).any (·.contains c) = true ↔ Listed items c := by
  rw [List.any_eq_true, Listed]
  constructor
  · rintro ⟨item, hitem, hc⟩
    exact ⟨item, (List.mem_filter.1 hitem).1, hc⟩
  · rintro ⟨item, hitem, hc⟩
    refine ⟨item, List.mem_filter.2 ⟨hitem, ?_⟩, hc⟩
    cases hempty : item.isEmpty with
    | false => rfl
    | true =>
      rw [not_contains_of_isEmpty hempty c] at hc
      cases hc

theorem contains_negated {items : List Item} {c : Char} : CharSet.contains ⟨true, kept items⟩ c = true ↔ ¬ Listed items c := by
  rw [← listed_kept, CharSet.contains]
  simp

theorem contains_plain {items : List Item} {c : Char} : CharSet.contains ⟨false, kept items⟩ c = true ↔ Listed items c := by
  rw [← listed_kept, CharSet.contains]
  simp

theorem ofBody_marked (body : List Char) : CharSet.ofBody ('!' :: body) = ⟨true, kept (readItems body)⟩ := by
  simp [CharSet.ofBody, Item.isEmpty, kept]

def settle : List Item → CharSet
  | .single '!' :: rest => ⟨true, rest⟩
  | .span '!' high :: rest => ⟨true, .single '-' :: .single high :: rest⟩
  | items => ⟨false, items⟩

theorem ofBody_unmarked {body : List Char} (h : body.head? ≠ some '!') :
    CharSet.ofBody body = settle (kept (readItems body)) := by
  unfold CharSet.ofBody
  split
  · simp at h
  · rfl

theorem kept_behind {before : List Item} (backwards : ∀ item ∈ before, item.isEmpty = true) (items : List Item) :
    kept (before ++ items) = kept items := by
  have hnone : kept before = [] := List.filter_eq_nil_iff.2 fun item hitem => by simp [backwards item hitem]
  rw [kept, List.filter_append]
  exact congrArg (· ++ kept items) hnone

theorem Uncovers.settle {items others : List Item} (h : Uncovers items others) :
    settle (kept items) = ⟨true, kept others⟩ := by
  cases h with
  | @single before rest backwards =>
    rw [kept_behind backwards]
    rfl
  | @span before rest high backwards forwards =>
    have hforwards : (!(Item.span '!' high).isEmpty) = true := by simpa [Item.isEmpty] using forwards
    have hkept : kept (.span '!' high :: rest) = .span '!' high :: kept rest := List.filter_cons_of_pos hforwards
    rw [kept_behind backwards, hkept]
    rfl

theorem settle_of_covered {items : List Item} (h : ∀ others, ¬ Uncovers items others) :
    settle (kept items) = ⟨false, kept items⟩ := by
  have hbackwards : ∀ {before : List Item}, (∀ item ∈ before, ¬ (!item.isEmpty) = true) →
      ∀ item ∈ before, item.isEmpty = true := by
    intro before hbefore item hitem
    simpa using hbefore item hitem
  unfold settle
  split
  · rename_i rest hkept
    obtain ⟨before, others, rfl, hbefore, -, -⟩ := List.filter_eq_cons_iff.1 hkept
    exact absurd (.single (hbackwards hbefore)) (h others)
  · rename_i high rest hkept
    obtain ⟨before, others, rfl, hbefore, hforwards, -⟩ := List.filter_eq_cons_iff.1 hkept
    exact absurd (.span (hbackwards hbefore) (by simpa [Item.isEmpty] using hforwards)) (h _)
  · rfl

theorem contains_unmarked {body : List Char} {items : List Item} (lists : Lists body items) (plain : body.head? ≠ some '!')
    (c : Char) : (CharSet.ofBody body).contains c = true ↔ Takes false items c := by
  rw [ofBody_unmarked plain, readItems_eq_iff.2 lists]
  by_cases huncovers : ∃ others, Uncovers items others
  · obtain ⟨others, hothers⟩ := huncovers
    rw [hothers.settle, contains_negated]
    constructor
    · exact fun hlisted => .inl ⟨rfl, others, hothers, hlisted⟩
    · rintro (⟨-, more, hmore, hlisted⟩ | ⟨hcovered, -⟩)
      · -- What is uncovered is the same up to spans that run backwards.
        rw [← contains_negated, ← hmore.settle] at hlisted
        rwa [hothers.settle, contains_negated] at hlisted
      · exact absurd hothers (hcovered rfl others)
  · have hcovered : ∀ others, ¬ Uncovers items others := fun others hothers => huncovers ⟨others, hothers⟩
    rw [settle_of_covered hcovered, contains_plain]
    simp [Takes, AsWritten, hcovered]

/-- The set that a closed bracket is read as takes what the set takes that is written there. -/
theorem contains_ofBody {text body rest : List Char} {mark : Bool} {items : List Item} (closes : Closes text mark body rest)
    (lists : Lists body items) (c : Char) :
    (CharSet.ofBody (markText mark ++ body)).contains c = true ↔ Takes mark items c := by
  cases mark with
  | true =>
    have hset : CharSet.ofBody (markText true ++ body) = ⟨true, kept items⟩ := by
      rw [← readItems_eq_iff.2 lists]
      exact ofBody_marked body
    rw [hset, contains_negated]
    simp [Takes, AsWritten]
  | false => exact contains_unmarked lists closes.head_ne c

inductive Spells : List Token → List Char → Prop
  | nil : Spells [] []
  | anyRun {tokens : List Token} {name : List Char} (run : List Char) (next : Spells tokens name) :
      Spells (.anyRun :: tokens) (run ++ name)
  | one {token : Token} {tokens : List Token} {c : Char} {name : List Char} (takes : token.takes c = true)
      (next : Spells tokens name) : Spells (token :: tokens) (c :: name)

section spells
variable {token : Token} {tokens : List Token} {c : Char} {name text : List Char}

theorem spells_nil : Spells [] name ↔ name = [] := by
  constructor
  · rintro ⟨⟩
    rfl
  · rintro rfl
    exact .nil

theorem spells_anyRun : Spells (.anyRun :: tokens) name ↔ ∃ run rest, name = run ++ rest ∧ Spells tokens rest := by
  constructor
  · intro h
    cases h with
    | anyRun run next => exact ⟨run, _, rfl, next⟩
    | one takes _ => cases takes
  · rintro ⟨run, rest, rfl, next⟩
    exact .anyRun run next

theorem spells_anyRun_nil : Spells (.anyRun :: tokens) [] ↔ Spells tokens [] := by
  rw [spells_anyRun]
  simp [and_assoc]

theorem spells_anyRun_cons :
    Spells (.anyRun :: tokens) (c :: text) ↔ Spells tokens (c :: text) ∨ Spells (.anyRun :: tokens) text := by
  rw [spells_anyRun, spells_anyRun]
  constructor
  · rintro ⟨run, rest, htext, next⟩
    cases run with
    | nil => exact .inl (by rwa [show c :: text = rest from htext])
    | cons d run =>
      obtain ⟨-, rfl⟩ := List.cons.inj htext
      exact .inr ⟨run, rest, rfl, next⟩
  · rintro (next | ⟨run, rest, rfl, next⟩)
    · exact ⟨[], _, rfl, next⟩
    · exact ⟨c :: run, rest, rfl, next⟩

theorem spells_one (single : token ≠ .anyRun) :
    Spells (token :: tokens) name ↔ ∃ c rest, name = c :: rest ∧ token.takes c = true ∧ Spells tokens rest := by
  constructor
  · intro h
    cases h with
    | anyRun => exact absurd rfl single
    | one takes next => exact ⟨_, _, rfl, takes, next⟩
  · rintro ⟨c, rest, rfl, takes, next⟩
    exact .one takes next

theorem spells_one_cons (single : token ≠ .anyRun) :
    Spells (token :: tokens) (c :: text) ↔ token.takes c = true ∧ Spells tokens text := by
  rw [spells_one single]
  simp [and_assoc]

def fits (tokens : List Token) (text : List Char) : Bool := (matchTails tokens text).headD false

theorem matchTails_one (single : token ≠ .anyRun) (tokens : List Token) (text : List Char) :
    matchTails (token :: tokens) text = afterOne token.takes text (matchTails tokens text) := by
  cases token with
  | anyRun => exact absurd rfl single
  | anyChar => rfl
  | literal _ => rfl
  | oneOf _ => rfl

theorem orTails_ne_nil {row : List Bool} (h : row ≠ []) : orTails row ≠ [] := by
  obtain ⟨b, others, rfl⟩ := List.exists_cons_of_ne_nil h
  rw [orTails]
  split <;> simp

theorem orTails_cons {row : List Bool} (h : row ≠ []) (b : Bool) :
    orTails (b :: row) = (b || (orTails row).headD false) :: orTails row := by
  obtain ⟨d, others, hothers⟩ := List.exists_cons_of_ne_nil (orTails_ne_nil h)
  rw [orTails, hothers]
  rfl

theorem matchTails_ne_nil (tokens : List Token) (text : List Char) : matchTails tokens text ≠ [] := by
  induction tokens with
  | nil => simp [matchTails]
  | cons token rest ih =>
    by_cases hrun : token = .anyRun
    · subst hrun
      exact orTails_ne_nil ih
    · obtain ⟨b, row, hrow⟩ := List.exists_cons_of_ne_nil ih
      rw [matchTails_one hrun, hrow]
      cases text <;> simp [afterOne]

theorem matchTails_nil (tokens : List Token) : matchTails tokens [] = [fits tokens []] := by
  rw [fits]
  induction tokens with
  | nil => rfl
  | cons token rest ih =>
    by_cases hrun : token = .anyRun
    · subst hrun
      rw [matchTails, ih]
      rfl
    · rw [matchTails_one hrun]
      rfl

/-- The row of a text goes on with that of its tail. -/
theorem matchTails_cons (tokens : List Token) (c : Char) (text : List Char) :
    matchTails tokens (c :: text) = fits tokens (c :: text) :: matchTails tokens text := by
  rw [fits]
  induction tokens with
  | nil => rfl
  | cons token rest ih =>
    by_cases hrun : token = .anyRun
    · subst hrun
      rw [matchTails, matchTails, ih, orTails_cons (matchTails_ne_nil rest text)]
      rfl
    · rw [matchTails_one hrun, matchTails_one hrun, ih]
      rfl

theorem fits_anyRun_nil : fits (.anyRun :: tokens) [] = fits tokens [] := by
  rw [fits, matchTails, matchTails_nil]
  rfl

theorem fits_anyRun_cons :
    fits (.anyRun :: tokens) (c :: text) = (fits tokens (c :: text) || fits (.anyRun :: tokens) text) := by
  rw [fits, matchTails, matchTails_cons, orTails_cons (matchTails_ne_nil tokens text)]
  rfl

theorem fits_one_nil (single : token ≠ .anyRun) : fits (token :: tokens) [] = false := by
  rw [fits, matchTails_one single]
  rfl

theorem fits_one_cons (single : token ≠ .anyRun) :
    fits (token :: tokens) (c :: text) = (token.takes c && fits tokens text) := by
  rw [fits, matchTails_one single, matchTails_cons]
  rfl

theorem fits_iff : fits tokens name = true ↔ Spells tokens name := by
  induction tokens generalizing name with
  | nil =>
    rw [spells_nil]
    cases name <;> simp [fits, matchTails]
  | cons token rest ih =>
    by_cases hrun : token = .anyRun
    · subst hrun
      -- A star may take one character more, so it needs an induction on the name of its own.
      induction name with
      | nil => rw [fits_anyRun_nil, spells_anyRun_nil, ih]
      | cons c text ihtext => rw [fits_anyRun_cons, spells_anyRun_cons, Bool.or_eq_true, ih, ihtext]
    · cases name with
      | nil => simp [fits_one_nil hrun, spells_one hrun]
      | cons c text => rw [fits_one_cons hrun, spells_one_cons hrun, Bool.and_eq_true, ih]

end spells

section language
variable {takes : Bool → List Item → Char → Prop} {pattern text body name : List Char} {mark : Bool} {items : List Item}
  {c d : Char}

theorem inLanguage_nil : InLanguage takes [] name ↔ name = [] := by
  constructor
  · rintro ⟨⟩
    rfl
  · rintro rfl
    exact .nil

theorem inLanguage_anyRun :
    InLanguage takes ('*' :: pattern) name ↔ ∃ run rest, name = run ++ rest ∧ InLanguage takes pattern rest := by
  constructor
  · intro h
    cases h with
    | anyRun run next => exact ⟨run, _, rfl, next⟩
    | literal star => exact absurd rfl star
  · rintro ⟨run, rest, rfl, next⟩
    exact .anyRun run next

theorem inLanguage_anyChar :
    InLanguage takes ('?' :: pattern) name ↔ ∃ c rest, name = c :: rest ∧ InLanguage takes pattern rest := by
  constructor
  · intro h
    cases h with
    | anyChar c next => exact ⟨c, _, rfl, next⟩
    | literal _ question => exact absurd rfl question
  · rintro ⟨c, rest, rfl, next⟩
    exact .anyChar c next

theorem inLanguage_oneOf (closes : Closes text mark body pattern) (lists : Lists body items) :
    InLanguage takes ('[' :: text) name ↔ ∃ c rest, name = c :: rest ∧ takes mark items c ∧ InLanguage takes pattern rest := by
  constructor
  · intro h
    cases h with
    | oneOf closes' lists' taken next =>
      obtain ⟨rfl, rfl, rfl⟩ := closes.unique closes'
      rw [← readItems_eq_iff.2 lists, readItems_eq_iff.2 lists']
      exact ⟨_, _, rfl, taken, next⟩
    | literal _ _ bracket => exact absurd closes (bracket rfl _ _ _)
  · rintro ⟨c, rest, rfl, taken, next⟩
    exact .oneOf closes lists taken next

theorem inLanguage_literal (star : c ≠ '*') (question : c ≠ '?')
    (bracket : c = '[' → ∀ mark body rest, ¬ Closes pattern mark body rest) :
    InLanguage takes (c :: pattern) name ↔ ∃ rest, name = c :: rest ∧ InLanguage takes pattern rest := by
  constructor
  · intro h
    cases h with
    | anyRun => exact absurd rfl star
    | anyChar => exact absurd rfl question
    | oneOf closes => exact absurd closes (bracket rfl _ _ _)
    | literal _ _ _ next => exact ⟨_, rfl, next⟩
  · rintro ⟨rest, rfl, next⟩
    exact .literal star question bracket next

end language

theorem tokensFrom_drop (skipped : Nat) (text : List Char) : tokensFrom skipped text = tokens (text.drop skipped) := by
  induction text generalizing skipped with
  | nil => cases skipped <;> rfl
  | cons c rest ih =>
    cases skipped with
    | zero => rfl
    | succ skipped => exact ih skipped

section tokens
variable {c : Char} {text body rest : List Char} {mark : Bool}

theorem tokens_closed (closes : Closes text mark body rest) :
    tokens ('[' :: text) = .oneOf (CharSet.ofBody (markText mark ++ body)) :: tokens rest := by
  have hsome := setBody?_eq_some.2 ⟨mark, body, rest, closes, rfl⟩
  have hrest : text.drop ((markText mark ++ body).length + 1) = rest := by
    rw [closes.text_eq]
    exact List.drop_length_add_append 1
  have htokens : tokens ('[' :: text) = .oneOf (CharSet.ofBody (markText mark ++ body)) ::
      tokensFrom ((markText mark ++ body).length + 1) text := by
    simp [tokens, tokensFrom, hsome]
  rw [htokens, tokensFrom_drop, hrest]

theorem tokens_literal (star : c ≠ '*') (question : c ≠ '?')
    (bracket : c = '[' → ∀ mark body rest, ¬ Closes text mark body rest) : tokens (c :: text) = .literal c :: tokens text := by
  have hnone : c = '[' → setBody? text = none := by
    intro hc
    rw [Option.eq_none_iff_forall_ne_some]
    intro written hwritten
    obtain ⟨mark, body, rest, hcloses, -⟩ := setBody?_eq_some.1 hwritten
    exact bracket hc mark body rest hcloses
  simp only [tokens, tokensFrom, if_neg star, if_neg question]
  split
  · rw [hnone ‹_›]
  · rfl

end tokens

/-- Reading the tokens of a pattern and matching them decides its language. -/
theorem spells_tokens_iff (pattern name : List Char) : Spells (tokens pattern) name ↔ InLanguage Takes pattern name := by
  -- What follows a closed set is not the tail of the pattern, but it is shorter.
  induction hlength : pattern.length using Nat.strong_induction_on generalizing pattern name with
  | _ length ih =>
    cases pattern with
    | nil => rw [inLanguage_nil]; exact spells_nil
    | cons c rest =>
      have hrest : ∀ name, Spells (tokens rest) name ↔ InLanguage Takes rest name :=
        fun name => ih rest.length (by rw [← hlength, List.length_cons]; omega) rest name rfl
      by_cases star : c = '*'
      · subst star
        have htokens : tokens ('*' :: rest) = .anyRun :: tokens rest := rfl
        rw [htokens, spells_anyRun, inLanguage_anyRun]
        simp only [hrest]
      by_cases question : c = '?'
      · subst question
        have htokens : tokens ('?' :: rest) = .anyChar :: tokens rest := rfl
        rw [htokens, spells_one (by decide), inLanguage_anyChar]
        simp [hrest, Token.takes]
      by_cases closed : c = '[' ∧ ∃ mark body more, Closes rest mark body more
      · obtain ⟨rfl, mark, body, more, hcloses⟩ := closed
        have hshort : more.length < length := by
          rw [← hlength, hcloses.text_eq]
          simp
          omega
        have hmore := fun name => ih more.length hshort more name rfl
        rw [tokens_closed hcloses, spells_one (by simp), inLanguage_oneOf hcloses (lists_readItems body)]
        simp only [hmore, Token.takes, contains_ofBody hcloses (lists_readItems body)]
      · have bracket : c = '[' → ∀ mark body more, ¬ Closes rest mark body more :=
          fun hc mark body more hcloses => closed ⟨hc, mark, body, more, hcloses⟩
        rw [tokens_literal star question bracket, spells_one (by simp), inLanguage_literal star question bracket]
        simp only [hrest, Token.takes, beq_iff_eq]
        constructor
        · rintro ⟨_, more, rfl, rfl, next⟩
          exact ⟨more, rfl, next⟩
        · rintro ⟨more, rfl, next⟩
          exact ⟨c, more, rfl, rfl, next⟩

theorem accepts_iff {pattern name : String} :
    accepts pattern name = true ↔ InLanguage Takes pattern.toList name.toList :=
  fits_iff.trans (spells_tokens_iff _ _)

end GuestForge.Text.Glob
