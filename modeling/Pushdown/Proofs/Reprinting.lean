import Pushdown.Grammar.Reader
import Pushdown.Proofs.ProductionLines
import Pushdown.Proofs.ProductionReading

namespace Pushdown

/-!
# Printing a grammar and reading it again

The printed text of a rule has the head in front of an arrow and the names of the body
behind it.  What has been read from a text can be printed so that each part is found
again: the head ends where it has ended before, the names are words, and no bar makes two
bodies of one.  As every nonterminal of a grammar that has been read is the head of a rule,
the names are classified as before.
-/

/-! ## One rule -/

namespace Rule

/-- The parts of the rule do not have in them what would cut them elsewhere. -/
structure Legible
    (rule : Rule) :
    Prop where
  nonempty :
    rule.head.name ≠ ""
  noArrow :
    ¬ ['-', '>'] <:+: rule.head.name.toList
  noLineFeed :
    '\n' ∉ rule.head.name.toList
  /-- There is no blank at the ends of the head, but there may be some inside. -/
  trimmed :
    Text.Trims (rule.head.name.toList ++ [' ']) rule.head.name.toList
  areWords :
    ∀ name ∈ rule.body.map Symbol.text, Text.IsWord name
  noBar :
    ∀ name ∈ rule.body.map Symbol.text, '|' ∉ name.toList

/-- A line with the rule as its only alternative. -/
def productionLine
    (rule : Rule) :
    ProductionLine :=
  ⟨rule.head.name, [rule.body.map Symbol.text]⟩

theorem toList_text
    (rule : Rule) :
    rule.text.toList =
      rule.head.name.toList ++ ' ' :: '-' :: '>' :: ' ' ::
        (Text.spaced (rule.body.map Symbol.text)).toList := by
  simp [text, Nonterminal.text]

/-- The rule is the only one on its line, if the heads say the same of its names as it does. -/
theorem rules_productionLine
    {heads : List String}
    {rule : Rule}
    (declared : ∀ symbol ∈ rule.body, symbol.DeclaredIn heads) :
    ProductionLine.rules heads rule.productionLine = [rule] := by
  have sameBody : (rule.body.map Symbol.text).map (Symbol.ofName heads) = rule.body := by
    rw [List.map_map]
    exact (List.map_congr_left declared).trans (List.map_id _)
  rw [ProductionLine.rules, productionLine, List.map_singleton, sameBody]

section Legible

variable
  {rule : Rule}
  (legible : rule.Legible)

include legible

theorem Legible.isLine_spaced :
    Text.IsLine (Text.spaced (rule.body.map Symbol.text)) :=
  Text.isLine_spaced legible.areWords

/-- The parts of the printed text are those of the rule. -/
theorem Legible.writtenAs_text :
    ProductionLine.WrittenAs rule.text.toList rule.productionLine := by
  let names := rule.body.map Symbol.text
  let body := ' ' :: (Text.spaced names).toList
  refine ⟨_, body, [body], ?_, legible.trimmed, legible.nonempty, ?_, ?_⟩
  · rw [toList_text]
    exact Text.cutsAtArrow_spaced legible.noArrow _
  · refine ⟨List.cons_ne_nil _ _, ?_, by simp⟩
    rw [List.forall_mem_singleton, List.mem_cons, not_or]
    refine ⟨by decide, fun bar => ?_⟩
    rcases Text.mem_spaced bar with isSpace | ⟨name, isName, inName⟩
    · exact absurd isSpace (by decide)
    · exact legible.noBar name isName inName
  · refine .cons (ProductionLine.asciiWords_eq_iff.mp ?_) .nil
    rw [Text.asciiWords, Text.runs_cons_separator rfl, ← Text.asciiWords,
      Text.asciiWords_spaced legible.areWords]

/-- The printed text stays one line, and the line stays whole. -/
theorem Legible.isLine_text :
    rule.text ≠ "" ∧
      '\n' ∉ rule.text.toList ∧
      Text.dropReturn rule.text.toList = rule.text.toList := by
  have bodyStays := legible.isLine_spaced.dropReturn_eq
  refine ⟨?_, ?_, ?_⟩
  · simp [← String.toList_eq_nil_iff, toList_text]
  · simp [toList_text, legible.noLineFeed, legible.isLine_spaced.lineFeed_not_mem]
  · have dropped := Text.dropReturn_append_space
      (rule.head.name.toList ++ [' ', '-', '>'])
      (Text.spaced (rule.body.map Symbol.text)).toList
    rw [bodyStays] at dropped
    simpa [toList_text] using dropped

end Legible

end Rule

/-- The rules on a line are legible, as each has its parts from between the cuts in that line. -/
theorem ProductionLine.WrittenAs.legible
    {heads : List String}
    {line : List Char}
    {production : ProductionLine}
    (written : production.WrittenAs line)
    (noLineFeed : '\n' ∉ line)
    (ascii : ∀ character ∈ line,
      Text.isBlank character = true → Text.isAsciiBlank character = true)
    {words : List String}
    (isBody : words ∈ production.bodies) :
    Rule.Legible ⟨⟨production.head⟩, words.map (Symbol.ofName heads)⟩ := by
  obtain ⟨before, after, alternatives, cuts, trims, nonempty, divided, separated⟩ := written
  obtain ⟨alternative, isAlternative, isSeparated⟩ := List.exists_mem_of_forall₂ separated isBody
  have headInLine : production.head.toList ⊆ line := by
    rw [cuts.whole]
    exact List.subset_append_of_subset_left _ trims.infix.subset
  have alternativeInLine : alternative ⊆ line := by
    rw [cuts.whole]
    intro character member
    simp [divided.subset isAlternative member]
  have sameWords : Text.words alternative = words := by
    rw [← Text.asciiWords_eq_words fun character member =>
      ascii character (alternativeInLine member)]
    exact asciiWords_eq_iff.mpr isSeparated
  have names : (words.map (Symbol.ofName heads)).map Symbol.text = words := by
    simp [Function.comp_def]
  refine {
    nonempty := nonempty
    noArrow := fun arrow => cuts.first (arrow.trans trims.infix)
    noLineFeed := fun member => noLineFeed (headInLine member)
    trimmed := trims.append_blanks (List.forall_mem_singleton.mpr rfl)
    areWords := ?_
    noBar := ?_
  }
  · rw [names]
    exact fun word isWord => Text.isWord_of_mem_words (sameWords ▸ isWord)
  · rw [names]
    intro word isWord bar
    exact divided.unmarked alternative isAlternative
      (isSeparated.subset (List.mem_map_of_mem isWord) bar)

/-! ## All rules -/

namespace Grammar

/-- The rules of a grammar in the order of their numbers, with line feeds between them. -/
def listing
    (grammar : Grammar) :
    String :=
  "\n".intercalate (grammar.rules.map Rule.text)

/-- The rules of a grammar in the order of their numbers, with a line feed behind each. -/
def terminatedListing
    (grammar : Grammar) :
    String :=
  String.join (grammar.rules.map (·.text ++ "\n"))

/-- Every rule can be printed, and a name is that of a nonterminal exactly if it has a rule. -/
structure Printable
    (grammar : Grammar) :
    Prop where
  legible :
    ∀ rule ∈ grammar.rules, rule.Legible
  declared :
    ∀ rule ∈ grammar.rules, ∀ symbol ∈ rule.body,
      symbol.DeclaredIn (grammar.rules.map (·.head.name))

section Printable

variable
  {grammar : Grammar}
  (printable : grammar.Printable)

include printable

theorem Printable.lines_listing :
    Text.lines grammar.listing.toList = grammar.rules.map (·.text.toList) := by
  have areLines : ∀ line ∈ grammar.rules.map Rule.text, line ≠ "" ∧ '\n' ∉ line.toList := by
    rw [List.forall_mem_map]
    intro rule isRule
    exact ⟨(printable.legible rule isRule).isLine_text.1,
      (printable.legible rule isRule).isLine_text.2.1⟩
  have stay : ∀ line ∈ grammar.rules.map Rule.text,
      id (Text.dropReturn line.toList) = id line.toList := by
    rw [List.forall_mem_map]
    exact fun rule isRule => (printable.legible rule isRule).isLine_text.2.2
  have split := Text.map_lines_intercalate areLines stay
  rwa [List.map_id, List.map_map] at split

theorem Printable.lines_terminatedListing :
    Text.lines grammar.terminatedListing.toList = grammar.rules.map (·.text.toList) := by
  have written : grammar.terminatedListing.toList =
      (grammar.rules.map (·.text.toList)).flatMap (· ++ ['\n']) := by
    simp [terminatedListing, String.toList_join, List.flatMap_map]
  rw [written, Text.lines_terminated, List.map_map]
  · exact List.map_congr_left fun rule isRule =>
      (printable.legible rule isRule).isLine_text.2.2
  · rw [List.forall_mem_map]
    exact fun rule isRule => (printable.legible rule isRule).isLine_text.2.1

/-- The lines with the printed rules are read as the grammar that has them. -/
theorem Printable.read_eq
    {text : String}
    (lines : Text.lines text.toList = grammar.rules.map (·.text.toList)) :
    read text = .ok grammar := by
  have areRead :
      (Text.lines text.toList).map ProductionLine.read =
        (grammar.rules.map Rule.productionLine).map .ok := by
    rw [lines, List.map_map, List.map_map]
    exact List.map_congr_left fun rule isRule =>
      ProductionLine.read_eq_ok_iff.mpr (printable.legible rule isRule).writtenAs_text
  have sameRules :
      (grammar.rules.map Rule.productionLine).flatMap
          (ProductionLine.rules (grammar.rules.map (·.head.name))) =
        grammar.rules := by
    rw [List.flatMap_map, List.flatMap_congr fun rule isRule =>
      Rule.rules_productionLine (printable.declared rule isRule)]
    simp
  have heads :
      (grammar.rules.map Rule.productionLine).map (·.head) =
        grammar.rules.map (·.head.name) := by
    rw [List.map_map]
    rfl
  rw [read_of_lines areRead, heads, sameRules, Except.ok.injEq]
  refine ext_rules ?_
  rw [rules_ofRules, List.eraseDups_eq_self grammar.distinct]

end Printable

theorem legible_of_read
    {text : String}
    {grammar : Grammar}
    (isRead : read text = .ok grammar)
    (ascii : ∀ character ∈ text.toList,
      Text.isBlank character = true → Text.isAsciiBlank character = true) :
    ∀ rule ∈ grammar.rules, rule.Legible := by
  obtain ⟨productions, written, rfl⟩ := read_eq_ok_iff.mp isRead
  intro rule isRule
  obtain ⟨production, isProduction, isRule⟩ :=
    List.mem_flatMap.mp (mem_rules_ofRules.mp isRule)
  obtain ⟨words, isBody, rfl⟩ := List.mem_map.mp isRule
  obtain ⟨line, isLine, isWritten⟩ := List.exists_mem_of_forall₂ written isProduction
  have isLine := (List.mem_filter.mp isLine).1
  refine isWritten.legible (Text.lineFeed_not_mem_of_mem_lines isLine) ?_ isBody
  exact fun character member => ascii character (Text.subset_of_mem_lines isLine member)

theorem printable_of_read
    {text : String}
    {grammar : Grammar}
    (isRead : read text = .ok grammar)
    (ascii : ∀ character ∈ text.toList,
      Text.isBlank character = true → Text.isAsciiBlank character = true) :
    grammar.Printable := by
  refine ⟨legible_of_read isRead ascii, ?_⟩
  obtain ⟨productions, written, rfl⟩ := read_eq_ok_iff.mp isRead
  intro rule isRule
  have sameHeads : ∀ name,
      name ∈ (ofRules (productions.flatMap
          (ProductionLine.rules (productions.map (·.head))))).rules.map (·.head.name) ↔
        name ∈ productions.map (·.head) := by
    intro name
    rw [List.mem_map, List.mem_map]
    constructor
    · rintro ⟨other, isOther, rfl⟩
      exact exists_head_of_rule isOther
    · rintro ⟨production, isProduction, rfl⟩
      obtain ⟨line, _, isWritten⟩ := List.exists_mem_of_forall₂ written isProduction
      exact exists_rule_of_head isProduction isWritten.bodies_ne_nil
  intro symbol member
  rw [Symbol.DeclaredIn, Symbol.ofName_congr sameHeads]
  exact ProductionLine.declaredIn_of_mem_rules (mem_rules_ofRules.mp isRule) symbol member

/--
The grammar of a text that has no other blanks than ASCII ones is read again from its
printed rules: the same rules with the same numbers and the same kinds of symbols, whether
or not a line feed ends the last line.
-/
theorem read_listing_of_read
    {text : String}
    {grammar : Grammar}
    (isRead : read text = .ok grammar)
    (ascii : ∀ character ∈ text.toList,
      Text.isBlank character = true → Text.isAsciiBlank character = true) :
    read grammar.listing = .ok grammar ∧
      read grammar.terminatedListing = .ok grammar := by
  have printable := printable_of_read isRead ascii
  exact ⟨printable.read_eq printable.lines_listing,
    printable.read_eq printable.lines_terminatedListing⟩

/-- A head with a tab in it, an empty body, a repetition, and an arrow in a body. -/
def spacedHeads : String :=
  " S\tlist-> a b -> | \r\nb ->| -||-\n"

theorem read_listing_spacedHeads :
    ∃ grammar,
      read spacedHeads = .ok grammar ∧
        grammar.rules =
          [ ⟨⟨"S\tlist"⟩, [.terminal ⟨"a"⟩, .nonterminal ⟨"b"⟩, .terminal ⟨"->"⟩]⟩,
            ⟨⟨"S\tlist"⟩, []⟩,
            ⟨⟨"b"⟩, []⟩,
            ⟨⟨"b"⟩, [.terminal ⟨"-"⟩]⟩ ] ∧
        read grammar.listing = .ok grammar ∧
        read grammar.terminatedListing = .ok grammar := by
  obtain ⟨grammar, isRead, rules⟩ := Except.exists_eq_ok_of_any
    (read spacedHeads)
    (fun grammar => grammar.rules ==
      [ ⟨⟨"S\tlist"⟩, [.terminal ⟨"a"⟩, .nonterminal ⟨"b"⟩, .terminal ⟨"->"⟩]⟩,
        ⟨⟨"S\tlist"⟩, []⟩,
        ⟨⟨"b"⟩, []⟩,
        ⟨⟨"b"⟩, [.terminal ⟨"-"⟩]⟩ ])
    (by cbv)
  have ascii : spacedHeads.toList.all (fun character =>
      !Text.isBlank character || Text.isAsciiBlank character) = true := by
    cbv
  refine ⟨grammar, isRead, beq_iff_eq.mp rules, read_listing_of_read isRead ?_⟩
  simpa [← Bool.not_eq_true, imp_iff_not_or] using ascii

end Grammar

end Pushdown
