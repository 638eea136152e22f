import Mathlib.Data.List.TakeWhile
import SchemaTypings.Proofs.Runs
import SchemaTypings.Settings

/-! What a parameter sets, told without the functions that cut it: pieces are those that make up
the text again, and blanks end where a character is none. The first bad pair is a fault, and
without one the last pair holds. So what two parameters with a comma between them set follows
from what each of them sets. -/
namespace SchemaTypings

namespace Text

/-- What is left of a text without the unwanted characters at its ends. -/
structure Trimmed (unwanted : Char → Bool) (text core : List Char) : Prop where
  around : ∃ lead tail, text = lead ++ core ++ tail ∧ (∀ c ∈ lead, unwanted c = true) ∧
    ∀ c ∈ tail, unwanted c = true
  first : ∀ c ∈ core.head?, unwanted c = false
  last : ∀ c ∈ core.getLast?, unwanted c = false

section Trim

variable {unwanted : Char → Bool} {text core : List Char}

theorem Trimmed.subset (trimmed : Trimmed unwanted text core) : core ⊆ text := by
  obtain ⟨lead, tail, rfl, _, _⟩ := trimmed.around
  exact fun c member => List.mem_append_left _ (List.mem_append_right _ member)

theorem dropWhile_append_kept {lead rest : List Char} (gone : ∀ c ∈ lead, unwanted c = true)
    (kept : ∀ c ∈ rest.head?, unwanted c = false) : (lead ++ rest).dropWhile unwanted = rest := by
  rw [List.dropWhile_append_of_pos gone]
  cases rest with
  | nil => rfl
  | cons c rest => rw [List.dropWhile_cons_of_neg (by simp [kept c rfl])]

theorem exists_dropWhile (unwanted : Char → Bool) (text : List Char) :
    ∃ lead, text = lead ++ text.dropWhile unwanted ∧ (∀ c ∈ lead, unwanted c = true) ∧
      ∀ c ∈ (text.dropWhile unwanted).head?, unwanted c = false := by
  refine ⟨text.takeWhile unwanted, List.takeWhile_append_dropWhile.symm, ?_, ?_⟩
  · intro c member
    exact List.mem_takeWhile_imp member
  · intro c head
    have first := List.head?_dropWhile_not unwanted text
    rw [Option.mem_def.mp head] at first
    simpa using first

theorem Trimmed.trim_eq (trimmed : Trimmed unwanted text core) : trim unwanted text = core := by
  obtain ⟨⟨lead, tail, rfl, before, after⟩, first, last⟩ := trimmed
  unfold trim
  cases core with
  | nil =>
    have all : ∀ c ∈ lead ++ [] ++ tail, unwanted c = true := by
      intro c member
      rw [List.append_nil] at member
      exact (List.mem_append.mp member).elim (before c) (after c)
    rw [List.dropWhile_eq_nil_iff.mpr all]
    rfl
  | cons c core =>
    have kept : ∀ d ∈ (c :: core ++ tail).head?, unwanted d = false := first
    have behind : ∀ d ∈ tail.reverse, unwanted d = true := fun d member =>
      after d (List.mem_reverse.mp member)
    have ends : ∀ d ∈ (c :: core).reverse.head?, unwanted d = false := by
      rw [List.head?_reverse]
      exact last
    rw [List.append_assoc, dropWhile_append_kept before kept, List.reverse_append,
      dropWhile_append_kept behind ends, List.reverse_reverse]

theorem trimmed_trim (unwanted : Char → Bool) (text : List Char) :
    Trimmed unwanted text (trim unwanted text) := by
  obtain ⟨lead, cut, before, first⟩ := exists_dropWhile unwanted text
  obtain ⟨tail, rest, after, last⟩ := exists_dropWhile unwanted (text.dropWhile unwanted).reverse
  have inner : text.dropWhile unwanted = trim unwanted text ++ tail.reverse := by
    rw [trim, ← List.reverse_append, ← rest, List.reverse_reverse]
  refine ⟨⟨lead, tail.reverse, ?_, before, ?_⟩, ?_, ?_⟩
  · rw [List.append_assoc, ← inner, ← cut]
  · exact fun c member => after c (List.mem_reverse.mp member)
  · intro c head
    apply first c
    rw [inner, List.head?_append, Option.mem_def.mp head]
    rfl
  · rw [trim, List.getLast?_reverse]
    exact last

theorem trim_eq_iff : trim unwanted text = core ↔ Trimmed unwanted text core :=
  ⟨fun same => same ▸ trimmed_trim unwanted text, Trimmed.trim_eq⟩

end Trim

theorem cut?_append {separator : Char} {before : List Char} (absent : separator ∉ before)
    (after : List Char) : cut? separator (before ++ separator :: after) = some (before, after) := by
  induction before with
  | nil => exact if_pos rfl
  | cons c before ih =>
    obtain ⟨differ, absent⟩ := List.ne_and_not_mem_of_not_mem_cons absent
    rw [List.cons_append, cut?, if_neg (Ne.symm differ), ih absent]
    rfl

theorem cut?_eq_some {separator : Char} {text before after : List Char}
    (cut : cut? separator text = some (before, after)) :
    text = before ++ separator :: after ∧ separator ∉ before := by
  induction text generalizing before with
  | nil => cases cut
  | cons c text ih =>
    unfold cut? at cut
    split at cut
    next same =>
      cases cut
      exact ⟨same ▸ rfl, List.not_mem_nil⟩
    next differ =>
      obtain ⟨⟨front, rest⟩, inside, same⟩ := Option.map_eq_some_iff.mp cut
      cases same
      obtain ⟨rfl, absent⟩ := ih inside
      exact ⟨rfl, List.not_mem_cons_of_ne_of_not_mem (Ne.symm differ) absent⟩

/-- The parts of a text between the separators. -/
structure Pieces (separator : Char) (text : List Char) (pieces : List (List Char)) : Prop where
  joined : text = [separator].intercalate pieces
  filled : pieces ≠ []
  each : ∀ piece ∈ pieces, separator ∉ piece

theorem pieces_splitOn (separator : Char) (text : List Char) :
    Pieces separator text (text.splitOn separator) := by
  refine ⟨(List.intercalate_splitOn separator).symm, List.splitOn_ne_nil _ _, ?_⟩
  induction text with
  | nil => simp
  | cons c text ih =>
    rw [List.splitOn_cons_eq_if_modifyHead]
    split
    next => exact List.forall_mem_cons.mpr ⟨List.not_mem_nil, ih⟩
    next differ =>
      have other : separator ≠ c := fun same => differ (beq_iff_eq.mpr same.symm)
      cases parts : text.splitOn separator with
      | nil => exact absurd parts (List.splitOn_ne_nil _ _)
      | cons piece pieces =>
        rw [parts] at ih
        obtain ⟨first, others⟩ := List.forall_mem_cons.mp ih
        rw [List.modifyHead_cons]
        exact List.forall_mem_cons.mpr
          ⟨List.not_mem_cons_of_ne_of_not_mem other first, others⟩

theorem splitOn_eq_iff {separator : Char} {text : List Char} {pieces : List (List Char)} :
    text.splitOn separator = pieces ↔ Pieces separator text pieces := by
  constructor
  · rintro rfl
    exact pieces_splitOn separator text
  · rintro ⟨rfl, filled, each⟩
    exact List.splitOn_intercalate separator each filled

end Text

namespace Settings

/-- The pairs are the pieces between commas, trimmed, but not those of nothing but blanks. -/
def Lists (parameter : List Char) (listed : List (List Char)) : Prop :=
  ∃ pieces trimmed, Text.Pieces ',' parameter pieces ∧
    List.Forall₂ (Text.Trimmed Text.isBlank) pieces trimmed ∧ listed = trimmed.filter (!·.isEmpty)

theorem pairs_eq_iff {parameter : List Char} {listed : List (List Char)} :
    pairs parameter = listed ↔ Lists parameter listed := by
  constructor
  · rintro rfl
    refine ⟨_, _, Text.pieces_splitOn ',' parameter, ?_, rfl⟩
    rw [List.forall₂_map_right_iff]
    exact List.forall₂_same.mpr fun piece _ => Text.trimmed_trim Text.isBlank piece
  · rintro ⟨pieces, trimmed, parts, each, rfl⟩
    have same : pieces.map (Text.trim Text.isBlank) = trimmed := by
      rw [← List.forall₂_eq_eq_eq, List.forall₂_map_left_iff]
      exact each.imp fun _ _ => Text.Trimmed.trim_eq
    rw [pairs, Text.splitOn_eq_iff.mpr parts, same]

/-- A pair that sets the directory: the key before its first equals sign is the one there is,
and the value has something besides slashes. -/
structure Gives (pair directory : List Char) : Prop where
  parts : ∃ key value inner, pair = key ++ '=' :: value ∧ '=' ∉ key ∧
    Text.Trimmed Text.isBlank key "decls_dir".toList ∧ Text.Trimmed Text.isBlank value inner ∧
    Text.Trimmed (· == '/') inner directory
  filled : directory ≠ []

theorem directory?_eq_some {pair directory : List Char}
    (given : directory? pair = some directory) : Gives pair directory := by
  unfold directory? at given
  split at given
  next => cases given
  next key value cut =>
    obtain ⟨whole, first⟩ := Text.cut?_eq_some cut
    obtain ⟨⟨named, filled⟩, same⟩ := Option.ite_none_right_eq_some.mp given
    cases same
    exact ⟨⟨key, value, _, whole, first, Text.trim_eq_iff.mp named, Text.trimmed_trim _ _,
      Text.trimmed_trim _ _⟩, filled⟩

theorem Gives.directory?_eq {pair directory : List Char} (gives : Gives pair directory) :
    directory? pair = some directory := by
  obtain ⟨⟨key, value, inner, rfl, first, named, trimmed, stripped⟩, filled⟩ := gives
  unfold directory?
  rw [Text.cut?_append first]
  simp only [named.trim_eq, trimmed.trim_eq, stripped.trim_eq]
  exact if_pos ⟨trivial, filled⟩

theorem not_gives_iff {pair : List Char} :
    (∀ directory, ¬ Gives pair directory) ↔ directory? pair = none := by
  rw [Option.eq_none_iff_forall_ne_some]
  exact forall_congr' fun _ => not_congr ⟨Gives.directory?_eq, directory?_eq_some⟩

/-- What pairs in a row come to. -/
inductive Sets : List (List Char) → Except Fault Settings → Prop
  | nothing : Sets [] (.ok {})
  | last (others pair directory) (each : ∀ other ∈ others, ∃ unused, Gives other unused)
      (given : Gives pair directory) : Sets (others ++ [pair]) (.ok ⟨.ofList directory⟩)
  | fault (others bad rest) (each : ∀ other ∈ others, ∃ unused, Gives other unused)
      (none : ∀ directory, ¬ Gives bad directory) :
      Sets (others ++ bad :: rest) (.error (.malformedPair (.ofList bad)))

/-- The fault of the first pair that gives no directory, if there is one. -/
inductive Faults (parameter : List Char) : List Fault → Prop
  | none (listed) (lists : Lists parameter listed)
      (each : ∀ pair ∈ listed, ∃ directory, Gives pair directory) : Faults parameter []
  | first (others bad rest) (lists : Lists parameter (others ++ bad :: rest))
      (each : ∀ other ∈ others, ∃ directory, Gives other directory)
      (none : ∀ directory, ¬ Gives bad directory) :
      Faults parameter [.malformedPair (.ofList bad)]

theorem ofPairs_append (settings : Settings) (first second : List (List Char)) :
    ofPairs settings (first ++ second) =
      ofPairs settings first >>= fun changed => ofPairs changed second := by
  induction first generalizing settings with
  | nil => rfl
  | cons pair rest ih =>
    rw [List.cons_append, ofPairs, ofPairs]
    cases directory? pair with
    | none => rfl
    | some directory => exact ih _

theorem exists_ofPairs (settings : Settings) {pairs : List (List Char)}
    (each : ∀ pair ∈ pairs, ∃ directory, Gives pair directory) :
    ∃ changed, ofPairs settings pairs = .ok changed := by
  induction pairs generalizing settings with
  | nil => exact ⟨settings, rfl⟩
  | cons pair rest ih =>
    obtain ⟨⟨directory, gives⟩, others⟩ := List.forall_mem_cons.mp each
    rw [ofPairs, gives.directory?_eq]
    exact ih _ others

theorem Sets.ofPairs_eq {pairs : List (List Char)} {result : Except Fault Settings}
    (sets : Sets pairs result) : ofPairs {} pairs = result := by
  cases sets with
  | nothing => rfl
  | last others pair directory each given =>
    obtain ⟨changed, done⟩ := exists_ofPairs {} each
    rw [ofPairs_append, done]
    change ofPairs changed [pair] = _
    rw [ofPairs, given.directory?_eq]
    rfl
  | fault others bad rest each none =>
    obtain ⟨changed, done⟩ := exists_ofPairs {} each
    rw [ofPairs_append, done]
    change ofPairs changed (bad :: rest) = _
    rw [ofPairs, not_gives_iff.mp none]

theorem exists_gives {pair : List Char} (given : (directory? pair).isNone = false) :
    ∃ directory, Gives pair directory := by
  obtain ⟨directory, given⟩ := Option.isSome_iff_exists.mp (Option.isNone_eq_false_iff.mp given)
  exact ⟨directory, directory?_eq_some given⟩

theorem exists_sets (pairs : List (List Char)) : ∃ result, Sets pairs result := by
  cases found : pairs.find? fun pair => (directory? pair).isNone with
  | some bad =>
    obtain ⟨none, others, rest, rfl, each⟩ := List.find?_eq_some_iff_append.mp found
    refine ⟨_, .fault others bad rest ?_ (not_gives_iff.mpr (Option.isNone_iff_eq_none.mp none))⟩
    exact fun other member => exists_gives ((Bool.not_eq_true' _).mp (each other member))
  | none =>
    have each : ∀ pair ∈ pairs, ∃ directory, Gives pair directory :=
      fun pair member =>
        exists_gives (Bool.eq_false_iff.mpr (List.find?_eq_none.mp found pair member))
    rcases List.eq_nil_or_concat pairs with rfl | ⟨others, pair, rfl⟩
    · exact ⟨_, .nothing⟩
    · obtain ⟨directory, gives⟩ := each pair (by simp)
      rw [List.concat_eq_append]
      exact ⟨_, .last _ pair directory (fun other member => each other (by simp [member])) gives⟩

theorem ofParameter_eq_iff (parameter : String) (result : Except Fault Settings) :
    ofParameter parameter = result ↔ Sets (pairs parameter.toList) result := by
  constructor
  · rintro rfl
    obtain ⟨result, sets⟩ := exists_sets (pairs parameter.toList)
    have same : ofParameter parameter = result := sets.ofPairs_eq
    rwa [same]
  · exact Sets.ofPairs_eq

theorem faults_iff {parameter : String} {faults : List Fault} :
    Faults parameter.toList faults ↔
      faults = match ofParameter parameter with
        | .ok _ => []
        | .error fault => [fault] := by
  constructor
  · intro known
    cases known with
    | none listed lists each =>
      obtain ⟨settings, done⟩ := exists_ofPairs {} each
      rw [ofParameter, pairs_eq_iff.mpr lists, done]
    | first others bad rest lists each none =>
      have sets : Sets (others ++ bad :: rest) _ := .fault others bad rest each none
      rw [ofParameter, pairs_eq_iff.mpr lists, sets.ofPairs_eq]
  · rintro rfl
    have sets := (ofParameter_eq_iff parameter _).mp rfl
    have lists : Lists parameter.toList (pairs parameter.toList) := pairs_eq_iff.mp rfl
    generalize ofParameter parameter = result at sets ⊢
    generalize pairs parameter.toList = listed at sets lists
    cases sets with
    | nothing => exact .none [] lists (fun _ member => absurd member List.not_mem_nil)
    | last others pair directory each given =>
      refine .none _ lists ?_
      rw [List.forall_mem_append, List.forall_mem_singleton]
      exact ⟨each, directory, given⟩
    | fault others bad rest each none => exact .first others bad rest lists each none

theorem Faults.reports {parameter : String} {faults : List Fault}
    (known : Faults parameter.toList faults) : Reports (ofParameter parameter) faults := by
  rw [faults_iff.mp known]
  cases ofParameter parameter with
  | ok settings => exact Reports.ok settings
  | error fault => exact Reports.error fault []

theorem pairs_append_comma (first second : List Char) :
    pairs (first ++ ',' :: second) = pairs first ++ pairs second := by
  rw [pairs, List.splitOn_append_cons_self, List.map_append, List.filter_append]
  rfl

theorem ofPairs_of_ne_nil (settings other : Settings) {pairs : List (List Char)}
    (filled : pairs ≠ []) : ofPairs settings pairs = ofPairs other pairs := by
  obtain ⟨pair, rest, rfl⟩ := List.exists_cons_of_ne_nil filled
  rfl

theorem ofParameter_append (first second : String) :
    ofParameter (first ++ "," ++ second) = ofParameter first >>= fun settings =>
      if pairs second.toList = [] then .ok settings else ofParameter second := by
  have comma : ",".toList = [','] := by decide
  unfold ofParameter
  rw [String.toList_append, String.toList_append, comma, List.append_assoc, List.singleton_append,
    pairs_append_comma, ofPairs_append]
  refine bind_congr fun settings => ?_
  split
  next blank => rw [blank]; rfl
  next filled => exact ofPairs_of_ne_nil settings {} filled

theorem Gives.subset {pair directory : List Char} (gives : Gives pair directory) :
    directory ⊆ pair := by
  obtain ⟨key, value, inner, rfl, _, _, trimmed, stripped⟩ := gives.parts
  intro c member
  exact List.mem_append_right _ (List.mem_cons_of_mem _ (trimmed.subset (stripped.subset member)))

theorem comma_not_mem_pair {parameter pair : List Char} (member : pair ∈ pairs parameter) :
    ',' ∉ pair := by
  obtain ⟨piece, inside, rfl⟩ := List.mem_map.mp (List.mem_filter.mp member).1
  have cut := (Text.pieces_splitOn ',' parameter).each piece inside
  exact fun comma => cut ((Text.trimmed_trim Text.isBlank piece).subset comma)

theorem Gives.sound {parameter pair directory : List Char} (member : pair ∈ pairs parameter)
    (gives : Gives pair directory) :
    directory ≠ [] ∧ ',' ∉ directory ∧ directory.head? ≠ some '/' ∧
      directory.getLast? ≠ some '/' := by
  refine ⟨gives.filled, fun comma => comma_not_mem_pair member (gives.subset comma), ?_, ?_⟩
  · obtain ⟨_, _, _, _, _, _, _, stripped⟩ := gives.parts
    intro slash
    exact absurd (stripped.first '/' slash) (by decide)
  · obtain ⟨_, _, _, _, _, _, _, stripped⟩ := gives.parts
    intro slash
    exact absurd (stripped.last '/' slash) (by decide)

/-- The settings of a parameter are what its pairs come to, the first bad one or the value of the
last; and a parameter after another one sets what it would alone, unless it has no pairs. -/
theorem ofParameter_by_pairs :
    (∀ parameter listed, pairs parameter = listed ↔ Lists parameter listed) ∧
    (∀ parameter result, ofParameter parameter = result ↔
      Sets (pairs parameter.toList) result) ∧
    (∀ parameter, ∀ pair ∈ pairs parameter, ∀ directory, Gives pair directory →
      directory ≠ [] ∧ ',' ∉ directory ∧ directory.head? ≠ some '/' ∧
        directory.getLast? ≠ some '/') ∧
    ∀ first second : String, ofParameter (first ++ "," ++ second) =
      ofParameter first >>= fun settings =>
        if pairs second.toList = [] then .ok settings else ofParameter second :=
  ⟨fun _ _ => pairs_eq_iff, ofParameter_eq_iff, fun _ _ member _ gives => gives.sound member,
    ofParameter_append⟩

/-- A value with an equals sign in it and slashes around it, and an empty pair after it. -/
theorem value_by_pairs :
    pairs "\u3000decls_dir = /a=b// , ".toList = ["decls_dir = /a=b//".toList] ∧
      Gives "decls_dir = /a=b//".toList "a=b".toList ∧ ',' ∉ "a=b".toList ∧
      ofParameter "\u3000decls_dir = /a=b// , " = .ok ⟨"a=b"⟩ ∧
      ofParameter ("\u3000decls_dir = /a=b// , " ++ "," ++ "out") =
        .error (.malformedPair "out") := by
  obtain ⟨_, outcome, sound, joined⟩ := ofParameter_by_pairs
  have listed : pairs "\u3000decls_dir = /a=b// , ".toList = ["decls_dir = /a=b//".toList] := by
    decide +kernel
  have gives : Gives "decls_dir = /a=b//".toList "a=b".toList :=
    directory?_eq_some (by decide +kernel)
  have free := sound _ _ (listed ▸ List.mem_cons_self) _ gives
  have first : ofParameter "\u3000decls_dir = /a=b// , " = .ok ⟨"a=b"⟩ :=
    (outcome _ _).mpr (listed ▸ .last [] _ _ (fun _ none => nomatch none) gives)
  have other : pairs "out".toList = [] ++ ["out".toList] := by decide +kernel
  have second : ofParameter "out" = .error (.malformedPair "out") :=
    (outcome _ _).mpr (other ▸ .fault [] _ [] (fun _ none => nomatch none)
      (not_gives_iff.mpr (by decide +kernel)))
  have both := joined "\u3000decls_dir = /a=b// , " "out"
  rw [first] at both
  exact ⟨listed, gives, free.2.1, first, both.trans second⟩

end Settings

end SchemaTypings
