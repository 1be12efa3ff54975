import CheckScript.Proofs.Source.Canonical
import CheckScript.Proofs.Source.Places

/-!
# How the spans of a tree divide its source

A source is its lines with blanks around and between them (`Tiles`), so a byte that belongs to no
line is part of a blank (`Tiles.byteOf_blank`).

The spans of the lines are in order, and the lines of a block are a stretch of all lines. Since no
block in a tree is empty, the span of each runs from its first line to its last one
(`runsOver_of_canonical`), and with that the spans of blocks are in order as well.

## Main statement

* `spans_partition_source`: what the spans of a tree that was read have to do with its source, and
  with each other. `Block.Partitions` lists the parts.
-/

namespace CheckScript

open Text

/-! ## Lines and the blanks around them -/

/-- A text that starts at byte `offset` is the texts of the lines, each in its place, with nothing
but blanks before, between and behind them. -/
inductive Tiles : Nat → List Line → List Char → Prop
  | blanks {offset : Nat} {gap : List Char} : AllBlank gap → Tiles offset [] gap
  | line {offset : Nat} {gap rest : List Char} {l : Line} {lines : List Line} :
    AllBlank gap → l.span.start = offset + byteLength gap →
    l.span.stop = l.span.start + byteLength l.text.toList → Tiles l.span.stop lines rest →
    Tiles offset (l :: lines) (gap ++ l.text.toList ++ rest)

/-- The character stands in the text, and the byte is one of those that encode it. -/
def ByteOf (i : Nat) (cs : List Char) (c : Char) : Prop :=
  ∃ before after, cs = before ++ c :: after ∧ byteLength before ≤ i
    ∧ i < byteLength before + c.utf8Size

theorem exists_byteOf {i : Nat} {cs : List Char} (h : i < byteLength cs) :
    ∃ c, ByteOf i cs c := by
  induction cs generalizing i with
  | nil => exact absurd h (Nat.not_lt_zero i)
  | cons c cs ih =>
    by_cases hi : i < c.utf8Size
    · exact ⟨c, [], cs, rfl, Nat.zero_le _, by simpa using hi⟩
    · rw [byteLength_cons] at h
      obtain ⟨d, before, after, rfl, hlo, hhi⟩ := ih (i := i - c.utf8Size) (by omega)
      refine ⟨d, c :: before, after, rfl, ?_, ?_⟩ <;> rw [byteLength_cons] <;> omega

theorem ByteOf.mem {i : Nat} {cs : List Char} {c : Char} (h : ByteOf i cs c) : c ∈ cs := by
  obtain ⟨before, after, rfl, -, -⟩ := h
  simp

theorem ByteOf.append_right {i : Nat} {cs : List Char} {c : Char} (h : ByteOf i cs c)
    (ds : List Char) : ByteOf i (cs ++ ds) c := by
  obtain ⟨before, after, rfl, hlo, hhi⟩ := h
  exact ⟨before, after ++ ds, by simp, hlo, hhi⟩

theorem ByteOf.append_left {i : Nat} {ds : List Char} {c : Char} (cs : List Char)
    (h : ByteOf i ds c) : ByteOf (byteLength cs + i) (cs ++ ds) c := by
  obtain ⟨before, after, rfl, hlo, hhi⟩ := h
  refine ⟨cs ++ before, after, by simp, ?_, ?_⟩ <;> rw [byteLength_append] <;> omega

/-- The byte lies in the span. -/
def Span.Contains (span : Span) (i : Nat) : Prop := span.start ≤ i ∧ i < span.stop

namespace Tiles

variable {offset : Nat} {lines : List Line} {cs : List Char}

theorem behind_blanks {gap : List Char} (hgap : AllBlank gap)
    (h : Tiles (offset + byteLength gap) lines cs) : Tiles offset lines (gap ++ cs) := by
  cases h with
  | blanks h => exact .blanks (hgap.append h)
  | @line _ lead rest l lines hlead hstart hstop hrest =>
    rw [Nat.add_assoc, ← byteLength_append] at hstart
    have := Tiles.line (hgap.append hlead) hstart hstop hrest
    simpa only [List.append_assoc] using this

/-- **A byte in none of the lines is part of a blank.** -/
theorem byteOf_blank (h : Tiles offset lines cs) {i : Nat} (hi : i < byteLength cs)
    (hout : ∀ line ∈ lines, ¬line.span.Contains (offset + i)) :
    ∃ c, ByteOf i cs c ∧ isBlank c = true := by
  induction h generalizing i with
  | blanks hblank =>
    obtain ⟨c, hc⟩ := exists_byteOf hi
    exact ⟨c, hc, hblank c hc.mem⟩
  | @line offset gap rest l lines hblank hstart hstop _ ih =>
    rw [byteLength_append, byteLength_append] at hi
    have hl : ¬(l.span.start ≤ offset + i ∧ offset + i < l.span.stop) :=
      hout l List.mem_cons_self
    by_cases hgap : i < byteLength gap
    · obtain ⟨c, hc⟩ := exists_byteOf hgap
      rw [List.append_assoc]
      exact ⟨c, hc.append_right _, hblank c hc.mem⟩
    · -- the byte is behind the line, as it is not in it
      have hplace : l.span.stop + (i - byteLength (gap ++ l.text.toList)) = offset + i := by
        rw [byteLength_append]
        omega
      obtain ⟨c, hc, hcblank⟩ := ih (i := i - byteLength (gap ++ l.text.toList))
        (by rw [byteLength_append]; omega)
        (fun m hm => by rw [hplace]; exact hout m (List.mem_cons_of_mem _ hm))
      refine ⟨c, ?_, hcblank⟩
      have hback : byteLength (gap ++ l.text.toList) + (i - byteLength (gap ++ l.text.toList))
          = i := by
        rw [byteLength_append]
        omega
      rw [← hback]
      exact hc.append_left _

end Tiles

theorem tiles_linesFrom (offset : Nat) {raws : List (List Char)} (hne : raws ≠ []) :
    Tiles offset (linesFrom offset raws) (['\n'].intercalate raws) := by
  induction raws generalizing offset with
  | nil => exact absurd rfl hne
  | cons raw rest ih =>
    -- what stands behind the raw line starts with its newline, if there is another one
    obtain ⟨behind, hbehind, htiles⟩ : ∃ behind, ['\n'].intercalate (raw :: rest) = raw ++ behind
        ∧ Tiles (offset + byteLength raw) (linesFrom (offset + byteLength raw + 1) rest)
          behind := by
      cases rest with
      | nil => exact ⟨[], by simp, .blanks allBlank_nil⟩
      | cons next rest =>
        refine ⟨['\n'] ++ ['\n'].intercalate (next :: rest), ?_, ?_⟩
        · rw [List.intercalate_cons_cons, List.append_assoc]
        · exact Tiles.behind_blanks (by decide) (ih _ (List.cons_ne_nil _ _))
    rw [hbehind, linesFrom, lineAt_eq]
    split
    · next hblank => exact htiles.behind_blanks (trim_eq_nil_iff.mp hblank)
    · obtain ⟨tail, htail, hparts⟩ := blanks_append_trim raw
      have hlength := congrArg byteLength hparts
      rw [byteLength_append, byteLength_append] at hlength
      rw [Option.toList_some, List.singleton_append]
      -- the line that `lineAt_eq` gives
      generalize hl : Line.mk _ _ _ = l
      have htext : l.text.toList = trim raw := by rw [← hl, String.toList_ofList]
      have hstart : l.span.start = offset + byteLength (raw.takeWhile isBlank) := by rw [← hl]
      have hstop : l.span.stop = l.span.start + byteLength l.text.toList := by rw [htext, ← hl]
      have hrest : Tiles l.span.stop (linesFrom (offset + byteLength raw + 1) rest)
          (tail ++ behind) := by
        refine Tiles.behind_blanks htail ?_
        rw [hstop, hstart, htext, Nat.add_assoc offset, Nat.add_assoc offset, ← hlength]
        exact htiles
      have hline := Tiles.line (allBlank_takeWhile raw) hstart hstop hrest
      rwa [htext, ← List.append_assoc, ← hparts] at hline

/-- **A source is its lines, each in its place, and blanks.** -/
theorem tiles_sourceLines (source : String) : Tiles 0 (sourceLines source) source.toList := by
  have h := tiles_linesFrom 0 (splitChar_ne_nil '\n' source.toList)
  rw [splitChar_eq_splitOn, List.intercalate_splitOn] at h
  rw [sourceLines, splitChar_eq_splitOn]
  exact h

/-! ## From the first line to the last -/

/-- The span runs from the start of the first of the lines to the end of the last. -/
def Span.RunsOver (span : Span) (lines : List Line) : Prop :=
  ∃ first last, lines.head? = some first ∧ lines.getLast? = some last
    ∧ span = ⟨first.span.start, last.span.stop⟩

theorem runsOver_line (l : Line) : (Node.line l).span.RunsOver (Node.line l).lines := by
  rw [Node.span_line, Node.lines_line]
  exact ⟨l, l, rfl, rfl, rfl⟩

theorem runsOver_cons {node : Node} {rest : Block} (hnode : node.span.RunsOver node.lines)
    (hrest : rest ≠ [] → (Block.span rest).RunsOver (Block.lines rest)) :
    (Block.span (node :: rest)).RunsOver (Block.lines (node :: rest)) := by
  rw [Block.lines_cons]
  cases rest with
  | nil =>
    rw [Block.lines_nil, List.append_nil, Block.span]
    exact hnode
  | cons next rest =>
    obtain ⟨first, last, hfirst, -, hspan⟩ := hnode
    obtain ⟨first', last', -, hlast', hspan'⟩ := hrest (List.cons_ne_nil _ _)
    refine ⟨first, last', ?_, ?_, ?_⟩
    · rw [List.head?_append, hfirst, Option.some_or]
    · rw [List.getLast?_append, hlast', Option.some_or]
    · rw [Block.span, hspan, hspan']

theorem runsOver_of_nested {level : Nat} {nodes : Block} (h : Block.Nested level nodes)
    (hne : nodes ≠ []) : (Block.span nodes).RunsOver (Block.lines nodes) := by
  induction h with
  | nil => exact absurd rfl hne
  | line _ _ ih => exact runsOver_cons (runsOver_line _) ih
  | block _ _ _ _ ihInner ih =>
    refine runsOver_cons ?_ ih
    rw [Node.span_block, Node.lines_block]
    exact runsOver_cons (runsOver_line _) ihInner

/-- **The span of a block that is not empty runs from its first line to its last.** -/
theorem runsOver_of_canonical {block : Block} (h : block.Canonical) (hne : block ≠ []) :
    (Block.span block).RunsOver (Block.lines block) := by
  rcases h with rfl | ⟨first, rest, rfl, hrest⟩
  · exact absurd rfl hne
  · exact runsOver_cons (runsOver_line first) (runsOver_of_nested hrest)

theorem runsOver_of_mem {block : Block} {node : Node} (h : block.Canonical) (hmem : node ∈ block) :
    node.span.RunsOver node.lines := by
  cases node with
  | line l => exact runsOver_line l
  | block inner =>
    obtain ⟨hne, hinner⟩ := h.of_mem hmem
    rw [Node.span_block, Node.lines_block]
    exact runsOver_of_canonical hinner hne

/-! ## Order -/

/-- The lines are not empty, and each ends before the next one starts. -/
structure LinesInOrder (lines : List Line) : Prop where
  start_lt_stop : ∀ line ∈ lines, line.span.start < line.span.stop
  pairwise : lines.Pairwise fun l m => l.span.stop < m.span.start

theorem linesInOrder_sourceLines (source : String) : LinesInOrder (sourceLines source) := by
  refine ⟨fun line hline => ?_, pairwise_span_sourceLines source⟩
  obtain ⟨before, after, -, hstart, hstop⟩ := cuts_of_mem_sourceLines hline
  have htext := byteLength_pos (proper_of_mem_sourceLines hline).ne_nil
  omega

namespace LinesInOrder

variable {lines part : List Line}

theorem stretch (h : LinesInOrder lines) (hpart : part <:+: lines) : LinesInOrder part :=
  ⟨fun line hline => h.start_lt_stop line (hpart.subset hline), h.pairwise.sublist hpart.sublist⟩

theorem start_le_start {l m : Line} {rest : List Line} (h : LinesInOrder (l :: rest))
    (hm : m ∈ l :: rest) : l.span.start ≤ m.span.start := by
  rcases List.mem_cons.mp hm with rfl | hm
  · exact Nat.le_refl _
  · have hlt := h.start_lt_stop l List.mem_cons_self
    have hnext := (List.pairwise_cons.mp h.pairwise).1 m hm
    omega

theorem stop_le_stop {l m : Line} {front : List Line} (h : LinesInOrder (front ++ [m]))
    (hl : l ∈ front ++ [m]) : l.span.stop ≤ m.span.stop := by
  rcases List.mem_append.mp hl with hl | hl
  · have hlt := h.start_lt_stop m (by simp)
    have hnext := (List.pairwise_append.mp h.pairwise).2.2 l hl m List.mem_cons_self
    omega
  · rw [List.mem_singleton.mp hl]

theorem start_lt_stop_of_runsOver {span : Span} (h : LinesInOrder lines)
    (hspan : span.RunsOver lines) : span.start < span.stop := by
  obtain ⟨first, last, hfirst, hlast, rfl⟩ := hspan
  have hmem := List.mem_of_head? hfirst
  obtain ⟨front, rfl⟩ := List.getLast?_eq_some_iff.mp hlast
  have hlt := h.start_lt_stop first hmem
  have hle := h.stop_le_stop hmem
  exact Nat.lt_of_lt_of_le hlt hle

/-- A stretch of the lines runs within what all of them run over. -/
theorem span_le_span {outer inner : Span} (h : LinesInOrder lines) (houter : outer.RunsOver lines)
    (hinner : inner.RunsOver part) (hpart : part <:+: lines) :
    outer.start ≤ inner.start ∧ inner.stop ≤ outer.stop := by
  obtain ⟨first, last, hfirst, hlast, rfl⟩ := houter
  obtain ⟨first', last', hfirst', hlast', rfl⟩ := hinner
  have hmem := hpart.subset (List.mem_of_head? hfirst')
  have hmem' := hpart.subset (List.mem_of_getLast? hlast')
  constructor
  · obtain ⟨rest, rfl⟩ := List.head?_eq_some_iff.mp hfirst
    exact h.start_le_start hmem
  · obtain ⟨front, rfl⟩ := List.getLast?_eq_some_iff.mp hlast
    exact h.stop_le_stop hmem'

end LinesInOrder

/-- **The nodes of a block end before the next one starts.** -/
theorem pairwise_span_nodes {block : Block} (h : block.Canonical)
    (horder : LinesInOrder (Block.lines block)) :
    block.Pairwise fun a b => a.span.stop < b.span.start := by
  have hpairs := horder.pairwise
  rw [Block.lines_eq_flatMap] at hpairs
  refine (List.pairwise_flatMap.mp hpairs).2.imp_of_mem fun {a b} ha hb hab => ?_
  obtain ⟨first, last, -, hlast, hspan⟩ := runsOver_of_mem h ha
  obtain ⟨first', last', hfirst', -, hspan'⟩ := runsOver_of_mem h hb
  rw [hspan, hspan']
  exact hab last (List.mem_of_getLast? hlast) first' (List.mem_of_head? hfirst')

/-! ## Character boundaries -/

/-- The span lies in the source, and its ends are boundaries between characters. -/
def Span.OnBoundaries (span : Span) (source : List Char) : Prop := ∃ text, span.Cuts source text

theorem prefix_of_byteLength_le {cs ds source : List Char} (hc : cs <+: source) (hd : ds <+: source)
    (hle : byteLength cs ≤ byteLength ds) : cs <+: ds := by
  rcases List.prefix_or_prefix_of_prefix hc hd with h | ⟨rest, rfl⟩
  · exact h
  · rw [byteLength_append] at hle
    have hrest : rest = [] := by
      by_contra hne
      have := byteLength_pos hne
      omega
    simp [hrest]

/-- From the start of one text that is cut out to the end of another one behind it, a text is cut
out. -/
theorem onBoundaries_of_ends {a b : Span} {source : List Char} (ha : a.OnBoundaries source)
    (hb : b.OnBoundaries source) (hle : a.start ≤ b.stop) :
    Span.OnBoundaries ⟨a.start, b.stop⟩ source := by
  obtain ⟨text, before, after, hsource, hstart, -⟩ := ha
  obtain ⟨text', before', after', rfl, -, hstop'⟩ := hb
  rw [← byteLength_append] at hstop'
  have hfront : before <+: before' ++ text' := by
    refine prefix_of_byteLength_le ?_ (List.prefix_append _ after') (by omega)
    rw [hsource, List.append_assoc]
    exact List.prefix_append _ _
  obtain ⟨between, hbetween⟩ := hfront
  refine ⟨between, before, after', by rw [hbetween], hstart, ?_⟩
  rw [hstop', ← hbetween, byteLength_append]

theorem onBoundaries_of_runsOver {span : Span} {lines : List Line} {source : String}
    (h : span.RunsOver lines) (hlines : lines <:+: sourceLines source) :
    span.OnBoundaries source.toList := by
  have hlt := ((linesInOrder_sourceLines source).stretch hlines).start_lt_stop_of_runsOver h
  obtain ⟨first, last, hfirst, hlast, rfl⟩ := h
  have hcuts (line : Line) (hline : line ∈ lines) : line.span.OnBoundaries source.toList :=
    ⟨_, cuts_of_mem_sourceLines (hlines.subset hline)⟩
  exact onBoundaries_of_ends (hcuts first (List.mem_of_head? hfirst))
    (hcuts last (List.mem_of_getLast? hlast)) hlt.le

theorem onBoundaries_of_within {source : String} {root block : Block} (h : root.Canonical)
    (hroot : Block.lines root = sourceLines source) (hwithin : Block.Within block root) :
    (Block.span block).OnBoundaries source.toList
      ∧ ∀ node ∈ block, node.span.OnBoundaries source.toList := by
  have hblock := h.of_within hwithin
  have hlines : Block.lines block <:+: sourceLines source := hroot ▸ hwithin.lines_infix
  constructor
  · by_cases hne : block = []
    · subst hne
      exact ⟨[], [], source.toList, rfl, rfl, rfl⟩
    · exact onBoundaries_of_runsOver (runsOver_of_canonical hblock hne) hlines
  · intro node hnode
    have hinfix := (Block.lines_infix_of_mem hnode).trans hlines
    exact onBoundaries_of_runsOver (runsOver_of_mem hblock hnode) hinfix

/-! ## Trees that were read -/

theorem byteLength_toList (s : String) : byteLength s.toList = s.utf8ByteSize := by
  rw [← size_utf8Encode, String.utf8Encode_toList]
  rfl

/-- The spans of a tree divide the source among its lines, and group them as the tree does. -/
structure Block.Partitions (root : Block) (source : String) : Prop where
  /-- All spans, at any depth, lie in the source and end between characters. -/
  onBoundaries : ∀ block, Block.Within block root →
    (Block.span block).OnBoundaries source.toList
      ∧ ∀ node ∈ block, node.span.OnBoundaries source.toList
  /-- The bytes in the span of a line are its text, which is not empty, trimmed and without
  newline. -/
  line_bytes : ∀ line ∈ Block.lines root, line.Proper ∧ line.span.bytes source = line.text.toUTF8
  /-- Every other byte belongs to a blank. -/
  blank_outside : ∀ i < source.utf8ByteSize,
    (∀ line ∈ Block.lines root, ¬line.span.Contains i) →
    ∃ c, ByteOf i source.toList c ∧ isBlank c = true
  /-- The span of a block runs from its first line to its last. -/
  runsOver : ∀ block, Block.Within block root → block ≠ [] →
    (Block.span block).RunsOver (Block.lines block)
  /-- The nodes of a block stand in order, and apart. -/
  siblings : ∀ block, Block.Within block root →
    block.Pairwise fun a b => a.span.stop < b.span.start
  /-- A node is not empty, and stands inside the block around it. -/
  inside : ∀ block, Block.Within block root → ∀ node ∈ block,
    node.span.start < node.span.stop
      ∧ (Block.span block).start ≤ node.span.start ∧ node.span.stop ≤ (Block.span block).stop

/-- **The spans of a tree that was read divide its source.** -/
theorem spans_partition_source {source : String} {file : Nat} {script : Script}
    (h : parse source file = .ok script) : script.root.Partitions source := by
  obtain ⟨hnone, rfl⟩ := parse_eq_ok_iff.mp h
  have hcanonical := canonical_rootBlock source
  have hroot := lines_rootBlock hnone
  have horder (block : Block) (hwithin : Block.Within block (rootBlock source)) :
      LinesInOrder (Block.lines block) :=
    (linesInOrder_sourceLines source).stretch (hroot ▸ hwithin.lines_infix)
  constructor
  case onBoundaries => exact fun block => onBoundaries_of_within hcanonical hroot
  case line_bytes =>
    intro line hline
    rw [hroot] at hline
    exact ⟨proper_of_mem_sourceLines hline, bytes_of_cuts (cuts_of_mem_sourceLines hline)⟩
  case blank_outside =>
    intro i hi hout
    rw [hroot] at hout
    rw [← byteLength_toList] at hi
    exact (tiles_sourceLines source).byteOf_blank hi (by simpa using hout)
  case runsOver =>
    exact fun block hwithin => runsOver_of_canonical (hcanonical.of_within hwithin)
  case siblings =>
    exact fun block hwithin =>
      pairwise_span_nodes (hcanonical.of_within hwithin) (horder block hwithin)
  case inside =>
    intro block hwithin node hnode
    have hblock := hcanonical.of_within hwithin
    have hspan := runsOver_of_mem hblock hnode
    have hinfix := Block.lines_infix_of_mem hnode
    refine ⟨((horder block hwithin).stretch hinfix).start_lt_stop_of_runsOver hspan, ?_⟩
    exact (horder block hwithin).span_le_span
      (runsOver_of_canonical hblock (List.ne_nil_of_mem hnode)) hspan hinfix

/-- A script behind a blank line, with a dedent to a level that was not there before and blanks of
more than one byte. -/
theorem spans_partition_source_dedent :
    ∃ script, parse "\n  é\u3000\r\n\t\t\tb \n    c\n  d" 0 = .ok script
      ∧ script.root.Partitions "\n  é\u3000\r\n\t\t\tb \n    c\n  d" :=
  have hparse := parse_eq_ok_iff.mpr ⟨by decide, rfl⟩
  ⟨_, hparse, spans_partition_source hparse⟩

end CheckScript
