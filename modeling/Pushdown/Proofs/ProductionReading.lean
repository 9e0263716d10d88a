import Mathlib.Data.List.Forall2
import Pushdown.Grammar.Reader
import Pushdown.Proofs.RuleNumbers
import Pushdown.Proofs.TextParts

namespace Pushdown

/-!
# What it takes to read a grammar

Every line that is not blank has to have something in front of an arrow; the first line
that has not is the one that is reported.  What the lines say determines the rules, and
all heads together determine which of the symbols are nonterminals.
-/

/-! ## One line -/

/-- How a line is at fault. -/
def ProductionFault.OccursIn
    (line : List Char) :
    ProductionFault → Prop
  | .noArrow =>
      ¬ ['-', '>'] <:+: line
  | .emptyHead =>
      ∃ before after,
        Text.CutsAtArrow line before after ∧
          ∀ character ∈ before, Text.isBlank character = true

namespace ProductionLine

/-- Something that is not blank stands in front of the first arrow. -/
def Headed
    (line : List Char) :
    Prop :=
  ∃ before after,
    Text.CutsAtArrow line before after ∧
      ∃ character ∈ before, Text.isBlank character = false

/-- The head is what stands before the first arrow; bars divide what stands after it into bodies. -/
def WrittenAs
    (line : List Char)
    (production : ProductionLine) :
    Prop :=
  ∃ before after alternatives,
    Text.CutsAtArrow line before after ∧
      Text.Trims before production.head.toList ∧
      production.head ≠ "" ∧
      Text.Divided '|' after alternatives ∧
      List.Forall₂
        (fun alternative words =>
          Text.Separated Text.isAsciiBlank alternative (words.map String.toList))
        alternatives
        production.bodies

variable
  {line : List Char}
  {production : ProductionLine}

theorem asciiWords_eq_iff
    {alternative : List Char}
    {words : List String} :
    Text.asciiWords alternative = words ↔
      Text.Separated Text.isAsciiBlank alternative (words.map String.toList) := by
  rw [← Text.runs_eq_iff_separated, Text.asciiWords]
  constructor
  · rintro rfl
    simp [Function.comp_def]
  · intro sameRuns
    rw [sameRuns]
    simp [Function.comp_def]

theorem read_eq_ok_iff :
    read line = .ok production ↔ WrittenAs line production := by
  constructor
  · intro isRead
    unfold read at isRead
    split at isRead
    · cases isRead
    · next before after cut =>
        simp only [List.isEmpty_iff] at isRead
        split at isRead
        · cases isRead
        · next nonempty =>
            cases isRead
            refine ⟨before, after, after.splitOn '|', Text.cutAtArrow?_eq_some_iff.mp cut, ?_, ?_,
              Text.splitOn_eq_iff_divided.mp rfl, ?_⟩
            · simpa using Text.trims_trim before
            · simpa using nonempty
            · rw [List.forall₂_map_right_iff, List.forall₂_same]
              exact fun alternative _ => asciiWords_eq_iff.mp rfl
  · rintro ⟨before, after, alternatives, cuts, trims, nonempty, divided, separated⟩
    have bodies : (after.splitOn '|').map Text.asciiWords = production.bodies := by
      rw [Text.splitOn_eq_iff_divided.mpr divided, ← List.forall₂_eq_eq_eq,
        List.forall₂_map_left_iff]
      exact separated.imp fun _ _ => asciiWords_eq_iff.mpr
    rw [read, Text.cutAtArrow?_eq_some_iff.mpr cuts]
    simp [Text.trim_eq_iff_trims.mpr trims, nonempty, bodies]

theorem read_eq_error_iff
    {fault : ProductionFault} :
    read line = .error fault ↔ fault.OccursIn line := by
  unfold read
  cases cut : Text.cutAtArrow? line with
  | none =>
      have noArrow := Text.cutAtArrow?_eq_none_iff.mp cut
      cases fault with
      | noArrow => simpa [ProductionFault.OccursIn] using noArrow
      | emptyHead =>
          simp only [Except.error.injEq, reduceCtorEq, ProductionFault.OccursIn, false_iff]
          rintro ⟨before, after, cuts, _⟩
          exact noArrow cuts.arrow
  | some parts =>
      obtain ⟨before, after⟩ := parts
      have cuts := Text.cutAtArrow?_eq_some_iff.mp cut
      simp only [List.isEmpty_iff, Text.trim_eq_nil_iff]
      cases fault with
      | noArrow =>
          simp only [ProductionFault.OccursIn, cuts.arrow, not_true_eq_false, iff_false]
          split <;> simp
      | emptyHead =>
          constructor
          · intro failed
            split at failed
            · next blank => exact ⟨before, after, cuts, blank⟩
            · cases failed
          · rintro ⟨start, rest, otherCuts, blank⟩
            obtain ⟨rfl, _⟩ := cuts.unique otherCuts
            rw [if_pos blank]

/-- A line has a head exactly if it is not at fault. -/
theorem headed_iff :
    Headed line ↔ ∀ fault, ¬ ProductionFault.OccursIn line fault := by
  constructor
  · rintro ⟨before, after, cuts, character, member, solid⟩ fault occurs
    cases fault with
    | noArrow => exact occurs cuts.arrow
    | emptyHead =>
        obtain ⟨start, rest, otherCuts, blank⟩ := occurs
        obtain ⟨rfl, _⟩ := cuts.unique otherCuts
        rw [blank character member] at solid
        cases solid
  · intro sound
    have arrow : Text.cutAtArrow? line ≠ none :=
      fun noCut => sound .noArrow (Text.cutAtArrow?_eq_none_iff.mp noCut)
    obtain ⟨⟨before, after⟩, cut⟩ := Option.ne_none_iff_exists'.mp arrow
    have cuts := Text.cutAtArrow?_eq_some_iff.mp cut
    refine ⟨before, after, cuts, ?_⟩
    by_contra noHead
    refine sound .emptyHead ⟨before, after, cuts, fun character member => ?_⟩
    by_contra solid
    exact noHead ⟨character, member, Bool.not_eq_true _ ▸ solid⟩

theorem exists_writtenAs_iff :
    (∃ production, WrittenAs line production) ↔ Headed line := by
  simp only [headed_iff, ← read_eq_ok_iff, ← read_eq_error_iff]
  cases read line <;> simp

/-- A bar makes two bodies of one, so there is a body on every line. -/
theorem WrittenAs.bodies_ne_nil
    (written : WrittenAs line production) :
    production.bodies ≠ [] := by
  obtain ⟨_, _, alternatives, _, _, _, divided, separated⟩ := written
  intro noBodies
  rw [noBodies, List.forall₂_nil_right_iff] at separated
  exact divided.nonempty separated

/-- The words of the rules on a line, one rule for each body. -/
def alternatives
    (production : ProductionLine) :
    List (List String) :=
  production.bodies.map fun words => production.head :: Separator.arrow.text :: words

theorem map_words_rules
    (heads : List String)
    (production : ProductionLine) :
    (rules heads production).map Rule.words = production.alternatives := by
  simp [rules, alternatives, Rule.words, Nonterminal.text, Function.comp_def]

end ProductionLine

/-! ## All lines -/

section FirstFault

variable
  {ε α β : Type}
  {reader : α → Except ε β}
  {keep : α → Bool}

/-- The error is that of the first of the kept items that is at fault, with its number. -/
def Text.FirstFault
    (reader : α → Except ε β)
    (keep : α → Bool)
    (firstLine : Nat)
    (items : List α)
    (error : Text.Numbered ε) :
    Prop :=
  ∃ front item back,
    items = front ++ item :: back ∧
      error.line = firstLine + front.length ∧
      keep item = true ∧
      reader item = .error error.content ∧
      ∀ earlier ∈ front, keep earlier = true → ∃ value, reader earlier = .ok value

variable
  {firstLine : Nat}
  {first : α}
  {rest : List α}
  {error : Text.Numbered ε}

/-- An item that is not at fault is passed over. -/
theorem Text.firstFault_cons_iff
    (sound : keep first = true → ∃ value, reader first = .ok value) :
    FirstFault reader keep firstLine (first :: rest) error ↔
      FirstFault reader keep (firstLine + 1) rest error := by
  constructor
  · rintro ⟨front, item, back, whole, number, kept, failed, before⟩
    cases front with
    | nil =>
        obtain ⟨rfl, rfl⟩ := List.cons.inj whole
        obtain ⟨value, isRead⟩ := sound kept
        rw [isRead] at failed
        cases failed
    | cons other front =>
        obtain ⟨rfl, rfl⟩ := List.cons.inj whole
        rw [List.length_cons] at number
        exact ⟨front, item, back, rfl, by omega, kept, failed, (List.forall_mem_cons.mp before).2⟩
  · rintro ⟨front, item, back, rfl, number, kept, failed, before⟩
    refine ⟨first :: front, item, back, rfl, ?_, kept, failed,
      List.forall_mem_cons.mpr ⟨sound, before⟩⟩
    rw [List.length_cons]
    omega

theorem Text.firstFault_cons_of_error
    {fault : ε}
    (kept : keep first = true)
    (failed : reader first = .error fault) :
    FirstFault reader keep firstLine (first :: rest) error ↔ error = ⟨firstLine, fault⟩ := by
  constructor
  · rintro ⟨front, item, back, whole, number, _, itemFailed, before⟩
    cases front with
    | nil =>
        obtain ⟨rfl, rfl⟩ := List.cons.inj whole
        rw [failed, Except.error.injEq] at itemFailed
        cases error
        simp_all
    | cons other front =>
        obtain ⟨rfl, rfl⟩ := List.cons.inj whole
        obtain ⟨value, isRead⟩ := before _ List.mem_cons_self kept
        rw [failed] at isRead
        cases isRead
  · rintro rfl
    exact ⟨[], first, rest, rfl, rfl, kept, failed, List.forall_mem_nil _⟩

theorem Text.Numbered.mapM_filter_eq_error_iff
    {items : List α} :
    (((items.zipIdx firstLine).map fun (content, line) => Text.Numbered.mk line content).filter
          (keep ·.content)).mapM (read reader) = .error error ↔
      FirstFault reader keep firstLine items error := by
  induction items generalizing firstLine with
  | nil => simp [FirstFault, pure, Except.pure]
  | cons first rest inductionHypothesis =>
      rw [List.zipIdx_cons, List.map_cons]
      cases kept : keep first with
      | false =>
          rw [List.filter_cons_of_neg (by simp [kept]), inductionHypothesis,
            firstFault_cons_iff (by simp [kept])]
      | true =>
          rw [List.filter_cons_of_pos (by simp [kept]), List.mapM_cons, Except.bind_eq_error_iff]
          cases result : reader first with
          | error fault =>
              rw [firstFault_cons_of_error kept result]
              simp [read, result, eq_comm]
          | ok value =>
              rw [firstFault_cons_iff fun _ => ⟨value, result⟩, ← inductionHypothesis]
              simp [read, result, Except.bind_eq_error_iff, pure, Except.pure]

end FirstFault

namespace Grammar

theorem content_productionLines
    (text : String) :
    (productionLines text).map (·.content) =
      (Text.lines text.toList).filter (!Text.isBlankLine ·) := by
  rw [← Text.content_numberedLines, List.filter_map]
  rfl

theorem read_eq_ok_iff
    {text : String}
    {grammar : Grammar} :
    read text = .ok grammar ↔
      ∃ productions,
        List.Forall₂ ProductionLine.WrittenAs
            ((Text.lines text.toList).filter (!Text.isBlankLine ·)) productions ∧
          grammar =
            .ofRules
              (productions.flatMap (ProductionLine.rules (productions.map (·.head)))) := by
  have same : ProductionLine.WrittenAs =
      fun line production => ProductionLine.read line = .ok production := by
    funext line production
    exact propext ProductionLine.read_eq_ok_iff.symm
  simp only [read, Except.bind_eq_ok_iff, Except.pure_eq_ok_iff]
  simp only [same, ← content_productionLines, ← Text.Numbered.mapM_read_eq_ok_iff]
  grind

theorem read_eq_error_iff
    {text : String}
    {error : ProductionError} :
    read text = .error error ↔
      Text.FirstFault ProductionLine.read (!Text.isBlankLine ·) 0
        (Text.lines text.toList) error := by
  rw [← Text.Numbered.mapM_filter_eq_error_iff, read, Except.bind_eq_error_iff]
  simp [productionLines, Text.numberedLines, pure, Except.pure]

end Grammar

/-! ## The rules of all lines -/

theorem Symbol.DeclaredIn.isNonterminal_iff
    {nonterminals : List String}
    {symbol : Symbol}
    (declared : symbol.DeclaredIn nonterminals) :
    symbol.isNonterminal = true ↔ symbol.text ∈ nonterminals := by
  rw [DeclaredIn, ofName] at declared
  cases symbol with
  | terminal symbol =>
      split at declared
      · cases declared
      · next isOther => simpa [isNonterminal] using isOther
  | nonterminal symbol =>
      split at declared
      · next isName => simpa [isNonterminal] using isName
      · cases declared

section Rules

variable
  {productions : List ProductionLine}
  {heads : List String}

theorem ProductionLine.declaredIn_of_mem_rules
    {rule : Rule}
    (isRule : rule ∈ productions.flatMap (rules heads)) :
    ∀ symbol ∈ rule.body, symbol.DeclaredIn heads := by
  obtain ⟨production, _, isRule⟩ := List.mem_flatMap.mp isRule
  obtain ⟨words, _, rfl⟩ := List.mem_map.mp isRule
  intro symbol member
  obtain ⟨name, _, rfl⟩ := List.mem_map.mp member
  rw [Symbol.DeclaredIn, Symbol.text_ofName]

/-- Repetitions are seen in the words, as the heads decide what a word stands for. -/
theorem Grammar.map_words_rules :
    (ofRules (productions.flatMap (ProductionLine.rules heads))).rules.map Rule.words =
      (productions.flatMap ProductionLine.alternatives).eraseDups := by
  have readBack : ∀ rule ∈ productions.flatMap (ProductionLine.rules heads),
      Rule.read heads rule.words = .ok rule := by
    intro rule isRule
    exact Rule.read_eq_ok_iff.mpr ⟨rfl, ProductionLine.declaredIn_of_mem_rules isRule⟩
  rw [rules_ofRules, List.map_eraseDups, List.map_flatMap,
    List.flatMap_congr fun production _ => ProductionLine.map_words_rules heads production]
  intro first isFirst second isSecond sameWords
  have same := readBack second isSecond
  rw [← sameWords, readBack first isFirst] at same
  exact Except.ok.inj same

theorem Grammar.exists_rule_of_head
    {production : ProductionLine}
    (member : production ∈ productions)
    (someBody : production.bodies ≠ []) :
    ∃ rule ∈ (ofRules (productions.flatMap (ProductionLine.rules heads))).rules,
      rule.head.name = production.head := by
  obtain ⟨words, isBody⟩ := List.exists_mem_of_ne_nil _ someBody
  refine ⟨⟨⟨production.head⟩, words.map (Symbol.ofName heads)⟩, ?_, rfl⟩
  exact mem_rules_ofRules.mpr
    (List.mem_flatMap.mpr ⟨production, member, List.mem_map_of_mem isBody⟩)

theorem Grammar.exists_head_of_rule
    {rule : Rule}
    (isRule : rule ∈ (ofRules (productions.flatMap (ProductionLine.rules heads))).rules) :
    ∃ production ∈ productions, production.head = rule.head.name := by
  obtain ⟨production, member, isRule⟩ := List.mem_flatMap.mp (mem_rules_ofRules.mp isRule)
  obtain ⟨words, _, rfl⟩ := List.mem_map.mp isRule
  exact ⟨production, member, rfl⟩

theorem Grammar.start?_eq
    (someBody : ∀ production ∈ productions, production.bodies ≠ []) :
    (ofRules (productions.flatMap (ProductionLine.rules heads))).start? =
      productions.head?.map fun production => ⟨production.head⟩ := by
  rw [start?, rules_ofRules]
  cases productions with
  | nil => rfl
  | cons first rest =>
      obtain ⟨words, others, bodies⟩ :=
        List.exists_cons_of_ne_nil (someBody first List.mem_cons_self)
      simp [ProductionLine.rules, bodies, List.eraseDups_cons]

end Rules

namespace Grammar

/--
A text is read exactly if every line that is not blank has something in front of its first
arrow, and otherwise the first line that has not is reported, with its number among all
lines.  The rules of a text that is read are the alternatives on its lines, each only where
it comes first.  A symbol in a body is a nonterminal exactly if its name is the head of some
line; every head has a rule, and none is the name of a terminal.  The head of the first line
is the start.
-/
theorem read_decided_by_lines
    (text : String) :
    ((∃ grammar, read text = .ok grammar) ↔
      ∀ line ∈ Text.lines text.toList,
        Text.isBlankLine line = false → ProductionLine.Headed line) ∧
    (∀ number fault,
      read text = .error ⟨number, fault⟩ ↔
        ∃ front line back,
          Text.lines text.toList = front ++ line :: back ∧
            number = front.length ∧
            Text.isBlankLine line = false ∧
            fault.OccursIn line ∧
            ∀ earlier ∈ front,
              Text.isBlankLine earlier = false → ProductionLine.Headed earlier) ∧
    ∀ grammar,
      read text = .ok grammar →
      ∃ productions,
        List.Forall₂ ProductionLine.WrittenAs
            ((Text.lines text.toList).filter (!Text.isBlankLine ·)) productions ∧
          grammar.rules.map Rule.words =
            (productions.flatMap ProductionLine.alternatives).eraseDups ∧
          (∀ rule ∈ grammar.rules, ∀ symbol ∈ rule.body,
            symbol.isNonterminal = true ↔
              ∃ production ∈ productions, production.head = symbol.text) ∧
          (∀ production ∈ productions,
            ∃ rule ∈ grammar.rules, rule.head.name = production.head) ∧
          (∀ rule ∈ grammar.rules, ∀ other ∈ grammar.rules, ∀ terminal,
            .terminal terminal ∈ other.body → rule.head.name ≠ terminal.name) ∧
          grammar.start? = productions.head?.map fun production => ⟨production.head⟩ := by
  refine ⟨?_, ?_, ?_⟩
  · simp only [read_eq_ok_iff]
    rw [exists_comm]
    simp only [exists_and_left, exists_eq, and_true, List.exists_forall₂_iff,
      ProductionLine.exists_writtenAs_iff, List.mem_filter, Bool.not_eq_true', and_imp]
  · intro number fault
    rw [read_eq_error_iff, Text.FirstFault]
    simp only [Nat.zero_add, ProductionLine.read_eq_error_iff, ProductionLine.read_eq_ok_iff,
      ProductionLine.exists_writtenAs_iff, Bool.not_eq_true']
  · intro grammar isRead
    obtain ⟨productions, written, rfl⟩ := read_eq_ok_iff.mp isRead
    have someBody : ∀ production ∈ productions, production.bodies ≠ [] := by
      intro production member
      obtain ⟨line, _, isWritten⟩ := List.exists_mem_of_forall₂ written member
      exact isWritten.bodies_ne_nil
    have classified : ∀ rule ∈
          (ofRules (productions.flatMap
            (ProductionLine.rules (productions.map (·.head))))).rules,
        ∀ symbol ∈ rule.body,
          symbol.isNonterminal = true ↔
            ∃ production ∈ productions, production.head = symbol.text := by
      intro rule isRule symbol member
      rw [(ProductionLine.declaredIn_of_mem_rules (mem_rules_ofRules.mp isRule) symbol
        member).isNonterminal_iff, List.mem_map]
    refine ⟨productions, written, map_words_rules, classified,
      fun production member => exists_rule_of_head member (someBody production member), ?_,
      start?_eq someBody⟩
    intro rule isRule other isOther terminal member sameName
    obtain ⟨production, isProduction, isHead⟩ := exists_head_of_rule isRule
    have isNonterminal : (Symbol.terminal terminal).isNonterminal = true :=
      (classified other isOther _ member).mpr
        ⟨production, isProduction, isHead.trans sameName⟩
    cases isNonterminal

/-- A blank line, a name that is a head only later, a repetition and an arrow in a body. -/
def forwardReference : String :=
  "\n S  -> A b || A b\nA -> S ->\n"

/-- Two faulty lines after a blank one. -/
def noHeads : String :=
  "\n -> a\nb"

theorem read_decided_by_lines_forwardReference :
    (∃ grammar productions,
      read forwardReference = .ok grammar ∧
        grammar.rules =
          [ ⟨⟨"S"⟩, [.nonterminal ⟨"A"⟩, .terminal ⟨"b"⟩]⟩,
            ⟨⟨"S"⟩, []⟩,
            ⟨⟨"A"⟩, [.nonterminal ⟨"S"⟩, .terminal ⟨"->"⟩]⟩ ] ∧
        List.Forall₂ ProductionLine.WrittenAs
          ((Text.lines forwardReference.toList).filter (!Text.isBlankLine ·)) productions ∧
        grammar.start? = productions.head?.map fun production => ⟨production.head⟩) ∧
    ∃ front line back,
      Text.lines noHeads.toList = front ++ line :: back ∧
        front.length = 1 ∧
        ProductionFault.emptyHead.OccursIn line := by
  constructor
  · obtain ⟨grammar, isRead, rules⟩ := Except.exists_eq_ok_of_any
      (read forwardReference)
      (fun grammar => grammar.rules ==
        [ ⟨⟨"S"⟩, [.nonterminal ⟨"A"⟩, .terminal ⟨"b"⟩]⟩,
          ⟨⟨"S"⟩, []⟩,
          ⟨⟨"A"⟩, [.nonterminal ⟨"S"⟩, .terminal ⟨"->"⟩]⟩ ])
      (by cbv)
    obtain ⟨productions, written, _, _, _, _, start⟩ :=
      (read_decided_by_lines forwardReference).2.2 grammar isRead
    exact ⟨grammar, productions, isRead, beq_iff_eq.mp rules, written, start⟩
  · have failed : read noHeads = .error ⟨1, .emptyHead⟩ := by cbv
    obtain ⟨front, line, back, whole, number, _, occurs, _⟩ :=
      ((read_decided_by_lines noHeads).2.1 1 .emptyHead).mp failed
    exact ⟨front, line, back, whole, number.symm, occurs⟩

end Grammar

end Pushdown
