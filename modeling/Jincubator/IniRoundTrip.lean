import Jincubator.IniLines

/-! # Writing and reading a configuration file

The sections of a file that was read, and those that later accesses make of them, are well
formed: their nodes are legible, no name and no key stands twice, and only comments stand
before a heading. Such a file is read as it was written, but for comments and empty lines
that pass from the end of a section to the front of the next one.
-/

namespace Jincubator.Ini

open Keyed Text XiniNode XiniSection

/-! ## Well-formed sections -/

/-- The heading, with comments before it only. -/
def Headed (s : XiniSection) : Prop :=
  folded s.key ≠ [] ∧ ∃ texts blank body, s.nodes = tailComment texts blank ++ sect s.key :: body ∧
    ∀ name, sect name ∉ body

/-- The section before the first heading. -/
def Unnamed (s : XiniSection) : Prop := s.key = [] ∧ ∀ name, sect name ∉ s.nodes

structure Formed (s : XiniSection) : Prop where
  legible : ∀ node ∈ s.nodes, node.Legible
  keys : (s.ndkv.map foldedName).Nodup
  place : Unnamed s ∨ Headed s

structure WellFormed (sects : List XiniSection) : Prop where
  formed : ∀ s ∈ sects, Formed s
  distinct : (sects.map foldedKey).Nodup
  named : [] ∉ (sects.map foldedKey).tail

section

variable {s : XiniSection} {node : XiniNode}

theorem sect_notMem_tailComment (texts : List (List Byte)) (blank : Bool) (name : List Byte) :
    sect name ∉ tailComment texts blank := by
  unfold tailComment
  cases blank <;> simp

theorem Formed.append (formed : Formed s) {extra : List XiniNode}
    (legible : ∀ node ∈ extra, node.Legible) (inner : ∀ name, sect name ∉ extra)
    (keys : ((XiniSection.mk s.key (s.nodes ++ extra)).ndkv.map foldedName).Nodup) :
    Formed ⟨s.key, s.nodes ++ extra⟩ := by
  refine ⟨?_, keys, ?_⟩
  · intro node inside
    cases List.mem_append.mp inside with
    | inl old => exact formed.legible node old
    | inr new => exact legible node new
  · cases formed.place with
    | inl unnamed =>
        refine Or.inl ⟨unnamed.1, fun name inside => ?_⟩
        cases List.mem_append.mp inside with
        | inl old => exact unnamed.2 name old
        | inr new => exact inner name new
    | inr headed =>
        obtain ⟨name, texts, blank, body, nodes, tail⟩ := headed
        refine Or.inr ⟨name, texts, blank, body ++ extra, ?_, fun name inside => ?_⟩
        · rw [nodes, List.append_assoc]
          rfl
        · cases List.mem_append.mp inside with
          | inl old => exact tail name old
          | inr new => exact inner name new

theorem Formed.appendBare (formed : Formed s) {extra : List XiniNode}
    (legible : ∀ node ∈ extra, node.Legible) (inner : ∀ name, sect name ∉ extra)
    (bare : extra.filterMap XiniNode.ndkv = []) : Formed ⟨s.key, s.nodes ++ extra⟩ := by
  apply formed.append legible inner
  rw [XiniSection.ndkv, List.filterMap_append, bare, List.append_nil]
  exact formed.keys

theorem Formed.pushNode (formed : Formed s) (legible : node.Legible)
    (inner : ∀ name, node ≠ sect name) : Formed (s.pushNode node) := by
  have only : ∀ n ∈ [node], n.Legible := by
    intro n inside
    rw [List.mem_singleton.mp inside]
    exact legible
  have outer : ∀ name, sect name ∉ [node] :=
    fun name inside => inner name (List.mem_singleton.mp inside).symm
  cases node with
  | sect name => exact absurd rfl (inner name)
  | nilline => exact formed.appendBare only outer rfl
  | comment => exact formed.appendBare only outer rfl
  | keyvalue key kname value =>
      unfold XiniSection.pushNode
      dsimp only
      split
      · exact formed
      · rename_i fresh
        apply formed.append only outer
        rw [XiniSection.ndkv, List.filterMap_append, List.map_append, List.nodup_append]
        refine ⟨formed.keys, List.nodup_singleton _, ?_⟩
        intro a inside b own same
        rw [Option.not_isSome_iff_eq_none, findKnode_eq, XiniSection.value,
          Option.map_eq_none_iff, entry_eq_none] at fresh
        obtain ⟨e, member, rfl⟩ := List.mem_map.mp inside
        exact fresh e member (same.trans (List.mem_singleton.mp own))

theorem Formed.endNilline (formed : Formed s) : Formed s.endNilline := by
  unfold XiniSection.endNilline
  split
  · exact formed
  · exact formed.pushNode trivial (fun name => by simp)

theorem Formed.keepTail (formed : Formed s) : Formed s.keepTail := by
  have whole := popTailComment_append s.nodes
  obtain ⟨texts, blank, taken⟩ := popTailComment_taken s.nodes
  refine ⟨?_, ?_, ?_⟩
  · intro node inside
    exact formed.legible node (whole ▸ List.mem_append_left _ inside)
  · unfold XiniSection.keepTail XiniSection.ndkv
    rw [ndkv_kept]
    exact formed.keys
  · cases formed.place with
    | inl unnamed =>
        exact Or.inl ⟨unnamed.1, fun name inside =>
          unnamed.2 name (whole ▸ List.mem_append_left _ inside)⟩
    | inr headed =>
        obtain ⟨name, texts', blank', body, nodes, tail⟩ := headed
        refine Or.inr ⟨name, texts', blank', ?_⟩
        have whole := whole.trans nodes
        -- the heading is not among what was taken
        cases List.append_eq_append_iff.mp whole with
        | inl before =>
            obtain ⟨rest, -, kept⟩ := before
            have inside : sect s.key ∈ tailComment texts blank := by
              rw [← taken, kept]
              simp
            exact absurd inside (sect_notMem_tailComment texts blank s.key)
        | inr behind =>
            obtain ⟨rest, kept, rest'⟩ := behind
            cases rest with
            | nil =>
                have inside : sect s.key ∈ tailComment texts blank := by
                  rw [← taken, ← List.nil_append (popTailComment s.nodes).2, ← rest']
                  exact List.mem_cons_self ..
                exact absurd inside (sect_notMem_tailComment texts blank s.key)
            | cons node rest =>
                rw [List.cons_append, List.cons.injEq] at rest'
                obtain ⟨rfl, body'⟩ := rest'
                refine ⟨rest, kept, fun name inside => tail name ?_⟩
                rw [body']
                exact List.mem_append_left _ inside

theorem Formed.addTail (formed : Formed s) {taken : List XiniNode}
    (legible : ∀ node ∈ taken, node.Legible) (inner : ∀ name, sect name ∉ taken)
    (bare : taken.filterMap XiniNode.ndkv = []) : Formed (XiniSection.addTail taken s) := by
  unfold XiniSection.addTail
  apply Formed.endNilline
  have added := formed.endNilline.appendBare legible inner bare
  rwa [key_endNilline] at added

end

/-! ## What is read is well formed -/

structure Loaded (l : Loading) : Prop where
  stands : ∃ n, l.Stands n
  formed : ∀ s ∈ l.sects, Formed s
  first : (l.sects.map foldedKey).head? = some []

section

variable {l : Loading} {node : XiniNode}

theorem Loaded.wellFormed (loaded : Loaded l) : WellFormed l.sects := by
  obtain ⟨n, stands⟩ := loaded.stands
  refine ⟨loaded.formed, stands.distinct, ?_⟩
  have first := loaded.first
  have distinct := stands.distinct
  cases keys : l.sects.map foldedKey with
  | nil => exact List.not_mem_nil
  | cons k ks =>
      rw [keys] at first distinct
      cases first
      exact (List.nodup_cons.mp distinct).1

theorem Loaded.legible (loaded : Loaded l) : ∀ node ∈ l.nodes, node.Legible := by
  intro node inside
  unfold Loading.nodes at inside
  cases found : l.sects[l.current]? with
  | none =>
      rw [found] at inside
      cases inside
  | some s =>
      rw [found] at inside
      exact (loaded.formed s (List.mem_of_getElem? found)).legible node inside

theorem formed_modify {f : XiniSection → XiniSection} (formed : ∀ s ∈ l.sects, Formed s)
    (keeps : ∀ s, Formed s → Formed (f s)) (i : Nat) : ∀ s ∈ l.sects.modify i f, Formed s := by
  intro s inside
  cases mem_modify inside with
  | inl old => exact formed s old
  | inr changed =>
      obtain ⟨t, member, rfl⟩ := changed
      exact keeps t (formed t member)

/-- A heading that is new has a name. -/
theorem Loaded.named (loaded : Loaded l) {name : List Byte}
    (found : l.sects.findIdx? (fun s => xstrIcmp s.key name = 0) = none) : folded name ≠ [] := by
  intro nothing
  obtain ⟨s, member, first⟩ := List.mem_map.mp (List.mem_of_mem_head? loaded.first)
  have differs := List.findIdx?_eq_none_iff.mp found s member
  exact absurd (xstrIcmp_eq_zero.mpr (first.trans nothing.symm)) (by simpa using differs)

theorem Loaded.pushSect (loaded : Loaded l) {name : List Byte}
    (legible : (sect name).Legible ∨ name = []) : Loaded (l.pushSect name) := by
  obtain ⟨n, stands⟩ := loaded.stands
  obtain ⟨stands', changes⟩ := pushSect_stands stands name
  refine ⟨⟨_, stands'⟩, ?_, ?_⟩
  · have taken : ∀ node ∈ (popTailComment l.nodes).2, node.Legible := fun node inside =>
      loaded.legible node (popTailComment_append l.nodes ▸ List.mem_append_right _ inside)
    have kept := formed_modify loaded.formed (fun s => Formed.keepTail) l.current
    obtain ⟨texts, blank, shape⟩ := popTailComment_taken l.nodes
    have inner : ∀ name, sect name ∉ (popTailComment l.nodes).2 :=
      fun name => shape ▸ sect_notMem_tailComment texts blank name
    unfold Loading.pushSect
    dsimp only
    cases found : l.sects.findIdx? fun s => xstrIcmp s.key name = 0 with
    | none =>
        intro s inside
        cases List.mem_append.mp inside with
        | inl old => exact kept s old
        | inr new =>
            rw [List.mem_singleton.mp new]
            have named : folded name ≠ [] := loaded.named found
            have own : (sect name).Legible :=
              legible.resolve_right fun nothing => named (congrArg folded nothing)
            refine ⟨?_, ?_, Or.inr ⟨named, texts, blank, [], by rw [shape], fun _ => by simp⟩⟩
            · intro node inside
              cases List.mem_append.mp inside with
              | inl old => exact taken node old
              | inr new => exact List.mem_singleton.mp new ▸ own
            · rw [XiniSection.ndkv, List.filterMap_append, ndkv_taken]
              exact List.nodup_nil
    | some i =>
        dsimp only
        split
        · exact loaded.formed
        · exact formed_modify (l := ⟨_, 0⟩) kept
            (fun s formed => formed.addTail taken inner (ndkv_taken l.nodes)) i
  · have first := loaded.first
    rw [map_foldedKey] at first ⊢
    cases changes with
    | inl same => rwa [same]
    | inr added =>
        rw [added, List.map_append, List.head?_append, first]
        rfl

theorem Loaded.push (loaded : Loaded l) (legible : node.Legible ∨ node = sect []) :
    Loaded (l.push node) := by
  by_cases heading : ∃ name, node = sect name
  · obtain ⟨name, rfl⟩ := heading
    exact loaded.pushSect (legible.imp id fun same => by cases same; rfl)
  · have inner : ∀ name, node ≠ sect name := fun name same => heading ⟨name, same⟩
    have own : node.Legible := legible.resolve_right (inner [])
    obtain ⟨n, stands⟩ := loaded.stands
    have pushed := push_inner l inner
    refine ⟨⟨n, push_stands stands inner⟩, ?_, ?_⟩
    · rw [pushed]
      exact formed_modify loaded.formed (fun s formed => formed.pushNode own inner) l.current
    · have keeps : ∀ s : XiniSection, foldedKey (s.pushNode node) = foldedKey s :=
        fun s => congrArg folded (key_pushNode s node)
      rw [pushed, Keyed.map_modify keeps]
      exact loaded.first

theorem loaded_readLines {lines : List (List Byte)} (plain : ∀ line ∈ lines, Plain line) :
    Loaded (readLines lines) := by
  have run : ∀ l, Loaded l → Loaded (lines.foldl Loading.pushLine l) := by
    induction lines with
    | nil => exact fun l loaded => loaded
    | cons line lines ih =>
        intro l loaded
        refine ih (fun other inside => plain other (List.mem_cons_of_mem line inside)) _ ?_
        unfold Loading.pushLine
        cases made : makeNode line with
        | none => exact loaded
        | some node =>
            exact loaded.push (makeNode_legible (plain line List.mem_cons_self) made)
  refine run _ ⟨⟨folded [], List.nodup_singleton _, ⟨[], []⟩, rfl, rfl⟩, ?_, rfl⟩
  intro s inside
  rw [List.mem_singleton.mp inside]
  refine ⟨?_, List.nodup_nil, Or.inl ⟨rfl, fun _ => List.not_mem_nil⟩⟩
  intro node inside
  cases inside

/-- Whatever the file holds, its sections are well formed. -/
theorem wellFormed_load (content : Option (List Byte)) :
    WellFormed (XiniFile.load content).sects := by
  cases content with
  | none =>
      refine ⟨?_, List.nodup_nil, List.not_mem_nil⟩
      intro s inside
      cases inside
  | some bytes => exact (loaded_readLines fun _ inside => plain_of_mem_getlines inside).wellFormed

end

/-! ## The nodes of a written file -/

/-- An empty line after the section, unless it ends in one. -/
def closing (nodes : List XiniNode) : List XiniNode :=
  if nodes = [] ∨ nodes.getLast? = some nilline then nodes else nodes ++ [nilline]

/-- The nodes as they are written, one a line. -/
def written : List XiniSection → List XiniNode
  | [] => []
  | [s] => s.nodes
  | s :: t :: rest => closing s.nodes ++ written (t :: rest)

/-- The section has nothing that the next one could take for its own. -/
def Closed (nodes : List XiniNode) : Prop := nodes = [] ∨ nodes.getLast? = some nilline

theorem closed_closing (nodes : List XiniNode) : Closed (closing nodes) := by
  unfold closing
  split
  · assumption
  · exact Or.inr List.getLast?_concat

theorem closing_of_closed {nodes : List XiniNode} (closed : Closed nodes) :
    closing nodes = nodes := if_pos closed

theorem ndkv_closing (nodes : List XiniNode) :
    (closing nodes).filterMap XiniNode.ndkv = nodes.filterMap XiniNode.ndkv := by
  unfold closing
  split
  · rfl
  · rw [List.filterMap_append]
    exact List.append_nil _

theorem closing_inner {nodes : List XiniNode} (inner : ∀ name, sect name ∉ nodes) :
    ∀ name, sect name ∉ closing nodes := by
  intro name
  unfold closing
  split
  · exact inner name
  · simp [inner name]

theorem written_cons (s : XiniSection) {rest : List XiniSection} (more : rest ≠ []) :
    written (s :: rest) = closing s.nodes ++ written rest := by
  cases rest with
  | nil => exact absurd rfl more
  | cons t rest => rfl

theorem of_mem_written {sects : List XiniSection} {node : XiniNode}
    (inside : node ∈ written sects) : node = nilline ∨ ∃ s ∈ sects, node ∈ s.nodes := by
  induction sects with
  | nil => cases inside
  | cons s rest ih =>
      cases rest with
      | nil => exact Or.inr ⟨s, List.mem_cons_self, inside⟩
      | cons t rest =>
          rw [written] at inside
          cases List.mem_append.mp inside with
          | inr later =>
              cases ih later with
              | inl blank => exact Or.inl blank
              | inr other =>
                  obtain ⟨u, member, own⟩ := other
                  exact Or.inr ⟨u, List.mem_cons_of_mem s member, own⟩
          | inl own =>
              unfold closing at own
              split at own
              · exact Or.inr ⟨s, List.mem_cons_self, own⟩
              · cases List.mem_append.mp own with
                | inl old => exact Or.inr ⟨s, List.mem_cons_self, old⟩
                | inr blank => exact Or.inl (List.mem_singleton.mp blank)

theorem legible_written {sects : List XiniSection}
    (legible : ∀ s ∈ sects, ∀ node ∈ s.nodes, node.Legible) :
    ∀ node ∈ written sects, node.Legible := by
  intro node inside
  cases of_mem_written inside with
  | inl blank => exact blank ▸ trivial
  | inr own =>
      obtain ⟨s, member, inside⟩ := own
      exact legible s member node inside

theorem print_nodes {nodes : List XiniNode} (legible : ∀ node ∈ nodes, node.Legible) :
    nodes.flatMap XiniNode.print = unlines lineFeed (nodes.map XiniNode.line) := by
  rw [unlines, List.flatMap_map]
  exact List.flatMap_congr fun node inside => print_eq_line (legible node inside)

/-- A file is printed as the lines of its nodes. -/
theorem printSects_eq {sects : List XiniSection}
    (legible : ∀ s ∈ sects, ∀ node ∈ s.nodes, node.Legible) :
    XiniFile.printSects sects = unlines lineFeed ((written sects).map XiniNode.line) := by
  induction sects with
  | nil => rfl
  | cons s rest ih =>
      have others := ih fun t member => legible t (List.mem_cons_of_mem s member)
      have own := print_nodes (legible s List.mem_cons_self)
      cases rest with
      | nil => exact own
      | cons t rest =>
          rw [written, List.map_append, unlines_append, ← others, XiniFile.printSects, closing]
          by_cases empty : s.nodes = []
          · rw [if_pos empty, if_pos (Or.inl empty), empty]
            rfl
          · rw [if_neg empty]
            by_cases ends : s.nodes.getLast? = some nilline
            · have ended : s.hasEndNilline = true := decide_eq_true ends
              rw [if_pos ended, if_pos (Or.inr ends), XiniSection.print, own]
            · have open' : ¬s.hasEndNilline = true := fun ended => ends (of_decide_eq_true ended)
              rw [if_neg open', if_neg (not_or.mpr ⟨empty, ends⟩), XiniSection.print, own,
                List.map_append, unlines_append, List.append_assoc]
              rfl

/-! ## Taking comments from a closed section -/

theorem popLoop_stop {line : Nat} {rest : List XiniNode} (started : line > 0)
    (stops : rest = [] ∨ rest.head? = some nilline) (taken : List XiniNode) :
    popLoop line taken rest = (rest, taken) := by
  cases rest with
  | nil => rfl
  | cons node rest =>
      cases stops with
      | inl nothing => cases nothing
      | inr blank =>
          cases blank
          rw [popLoop, if_pos started]

theorem popLoop_comments (texts : List (List Byte)) (line : Nat) (taken rest : List XiniNode) :
    popLoop line taken (texts.map comment ++ rest) =
      popLoop (line + texts.length) ((texts.map comment).reverse ++ taken) rest := by
  induction texts generalizing line taken with
  | nil => rfl
  | cons text texts ih =>
      rw [List.map_cons, List.cons_append, popLoop, ih, List.length_cons, List.reverse_cons,
        List.append_assoc, Nat.add_right_comm]
      rfl

/-- An empty line, the start of the section, or nothing taken. -/
theorem popLoop_kept {line : Nat} (started : line > 0) (taken rest : List XiniNode) :
    (popLoop line taken rest).1 = [] ∨ (popLoop line taken rest).1.head? = some nilline ∨
      (popLoop line taken rest).1 = taken.reverse ++ rest := by
  induction rest generalizing line taken with
  | nil => exact Or.inl rfl
  | cons node rest ih =>
      cases node with
      | nilline =>
          rw [popLoop, if_pos started]
          exact Or.inr (Or.inl rfl)
      | comment text =>
          rw [popLoop]
          have next := ih (line.succ_pos) (comment text :: taken)
          rwa [List.reverse_cons, List.append_assoc] at next
      | sect | keyvalue => exact Or.inr (Or.inr rfl)

/-- What a closed section keeps, whatever comments come after it, is closed. -/
theorem closed_kept {nodes : List XiniNode} (closed : Closed nodes) (texts : List (List Byte))
    (blank : Bool) : Closed (popTailComment (nodes ++ tailComment texts blank)).1 := by
  have reversed : nodes.reverse = [] ∨ nodes.reverse.head? = some nilline := by
    rw [List.head?_reverse, List.reverse_eq_nil_iff]
    exact closed
  have back : ∀ rest : List XiniNode, rest = [] ∨ rest.head? = some nilline →
      Closed rest.reverse := by
    intro rest stops
    rw [Closed, List.getLast?_reverse, List.reverse_eq_nil_iff]
    exact stops
  unfold popTailComment tailComment
  rw [List.reverse_append, List.reverse_append, ← List.map_reverse]
  apply back
  cases blank with
  | true =>
      rw [if_pos rfl, List.reverse_singleton, List.append_assoc, List.singleton_append, popLoop,
        if_neg (lt_irrefl 0), popLoop_comments, popLoop_stop (by omega) reversed]
      exact reversed
  | false =>
      rw [if_neg Bool.false_ne_true, List.reverse_nil, List.nil_append, popLoop_comments,
        List.length_reverse]
      cases texts with
      | cons text texts =>
          rw [popLoop_stop (by simp) reversed]
          exact reversed
      | nil =>
          cases tail : nodes.reverse with
          | nil => exact Or.inl rfl
          | cons node rest =>
              rw [tail] at reversed
              cases reversed with
              | inl nothing => cases nothing
              | inr first =>
                  cases first
                  rw [List.length_nil, List.reverse_nil, List.map_nil, popLoop,
                    if_neg (lt_irrefl 0)]
                  cases popLoop_kept Nat.one_pos [nilline] rest with
                  | inl start => exact Or.inl start
                  | inr other =>
                      cases other with
                      | inl blank => exact Or.inr blank
                      | inr back => exact Or.inr ((congrArg List.head? back).trans rfl)

/-! ## Reading what was written -/

section

variable {p : List XiniSection} {c : XiniSection}

theorem modify_last (f : XiniSection → XiniSection) :
    (p ++ [c]).modify p.length f = p ++ [f c] := by
  induction p with
  | nil => rfl
  | cons s p ih => rw [List.cons_append, List.length_cons, List.modify_succ_cons, ih]; rfl

theorem getElem?_last : (p ++ [c])[p.length]? = some c := by
  rw [List.getElem?_append_right (le_refl _), Nat.sub_self]
  rfl

/-- Nodes that stand in no other section's way go to the end of the last section. -/
theorem push_body {body : List XiniNode} (inner : ∀ name, sect name ∉ body)
    (keys : ((XiniSection.mk c.key (c.nodes ++ body)).ndkv.map foldedName).Nodup) :
    body.foldl Loading.push ⟨p ++ [c], p.length⟩ =
      ⟨p ++ [⟨c.key, c.nodes ++ body⟩], p.length⟩ := by
  induction body generalizing c with
  | nil => rw [List.append_nil]; rfl
  | cons node body ih =>
      have own : ∀ name, node ≠ sect name :=
        fun name same => inner name (same ▸ List.mem_cons_self)
      have pushed : c.pushNode node = ⟨c.key, c.nodes ++ [node]⟩ := by
        cases node with
        | sect name => exact absurd rfl (own name)
        | nilline | comment => rfl
        | keyvalue key kname value =>
            unfold XiniSection.pushNode
            dsimp only
            rw [if_neg]
            rw [Option.not_isSome_iff_eq_none, findKnode_eq, XiniSection.value,
              Option.map_eq_none_iff, entry_eq_none]
            rw [XiniSection.ndkv, List.filterMap_append, List.map_append, List.nodup_append] at keys
            intro e inside same
            exact keys.2.2 _ (List.mem_map_of_mem inside) (folded key) List.mem_cons_self same
      have assoc : c.nodes ++ [node] ++ body = c.nodes ++ node :: body := by
        rw [List.append_assoc, List.singleton_append]
      rw [List.foldl_cons, push_inner _ own]
      dsimp only
      rw [modify_last, pushed, ih (c := ⟨c.key, c.nodes ++ [node]⟩)
        (fun name inside => inner name (List.mem_cons_of_mem node inside)) (by rwa [assoc]), assoc]

/-- A new heading ends the last section. -/
theorem push_sect {name : List Byte} (fresh : folded name ∉ (p ++ [c]).map foldedKey) :
    Loading.push ⟨p ++ [c], p.length⟩ (sect name) =
      ⟨(p ++ [c.keepTail]) ++ [⟨name, (popTailComment c.nodes).2 ++ [sect name]⟩],
        (p ++ [c.keepTail]).length⟩ := by
  have missing : (p ++ [c]).findIdx? (fun s => xstrIcmp s.key name = 0) = none := by
    rw [List.findIdx?_eq_none_iff]
    intro s inside
    have other : ¬xstrIcmp s.key name = 0 := fun same =>
      fresh (List.mem_map.mpr ⟨s, inside, xstrIcmp_eq_zero.mp same⟩)
    exact decide_eq_false other
  have nodes : Loading.nodes ⟨p ++ [c], p.length⟩ = c.nodes := by
    unfold Loading.nodes
    rw [getElem?_last]
    rfl
  unfold Loading.push Loading.pushSect
  dsimp only
  rw [missing, nodes]
  dsimp only
  rw [modify_last, List.length_append, List.length_append]
  rfl

/-- A headed section as it is written, with or without another one behind it. -/
theorem Headed.written {s : XiniSection} (headed : Headed s) (rest : List XiniSection) :
    ∃ texts blank body, Ini.written (s :: rest) =
        tailComment texts blank ++ (sect s.key :: (body ++ Ini.written rest)) ∧
      (∀ name, sect name ∉ body) ∧
      body.filterMap XiniNode.ndkv = s.ndkv ∧ (rest = [] ∨ body.getLast? = some nilline) := by
  obtain ⟨-, texts, blank, body, nodes, inner⟩ := headed
  have values : body.filterMap XiniNode.ndkv = s.ndkv := by
    rw [XiniSection.ndkv, nodes, List.filterMap_append, ndkv_tailComment]
    rfl
  cases rest with
  | nil =>
      refine ⟨texts, blank, body, ?_, inner, values, Or.inl rfl⟩
      rw [show Ini.written [s] = s.nodes from rfl, nodes, Ini.written, List.append_nil]
  | cons t rest =>
      have last : s.nodes.getLast? = some ((body.getLast?).getD (sect s.key)) := by
        rw [nodes, List.getLast?_append_of_ne_nil _ (List.cons_ne_nil _ _), List.getLast?_cons]
      by_cases ends : body.getLast? = some nilline
      · have closed : closing s.nodes = s.nodes :=
          closing_of_closed (Or.inr (by rw [last, ends]; rfl))
        refine ⟨texts, blank, body, ?_, inner, values, Or.inr ends⟩
        rw [Ini.written, closed, nodes, List.append_assoc]
        rfl
      · have open' : closing s.nodes = s.nodes ++ [nilline] := by
          apply if_neg
          rintro (nothing | blank)
          · rw [nothing] at last
            cases last
          · rw [last] at blank
            cases found : body.getLast? with
            | none =>
                rw [found] at blank
                cases blank
            | some node =>
                rw [found] at blank ends
                exact ends blank
        refine ⟨texts, blank, body ++ [nilline], ?_, fun name => by simp [inner name], ?_,
          Or.inr List.getLast?_concat⟩
        · rw [Ini.written, open', nodes]
          simp
        · rw [List.filterMap_append]
          exact (List.append_nil _).trans values

/-- Reading goes on behind a closed section as the file was written. -/
theorem reload (rest : List XiniSection) (closed : Closed c.nodes ∨ rest = [])
    (keys : (c.ndkv.map foldedName).Nodup) (formed : ∀ s ∈ rest, Formed s)
    (headed : ∀ s ∈ rest, Headed s) (distinct : ((p ++ c :: rest).map foldedKey).Nodup) :
    ∃ sects last, (written rest).foldl Loading.push ⟨p ++ [c], p.length⟩ = ⟨p ++ sects, last⟩ ∧
      sects ≠ [] ∧ outline sects = outline (c :: rest) ∧
      written sects = c.nodes ++ written rest := by
  induction rest generalizing p c with
  | nil =>
      refine ⟨[c], p.length, rfl, List.cons_ne_nil _ _, rfl, ?_⟩
      rw [written, written, List.append_nil]
  | cons s rest ih =>
      obtain ⟨texts, blank, body, whole, inner, values, ends⟩ :=
        (headed s List.mem_cons_self).written rest
      have closed : Closed c.nodes := closed.resolve_right (List.cons_ne_nil _ _)
      let behind : XiniSection := ⟨c.key, c.nodes ++ tailComment texts blank⟩
      let taken := (popTailComment behind.nodes).2
      let next : XiniSection := ⟨s.key, taken ++ [sect s.key] ++ body⟩
      have behindKeys : behind.ndkv = c.ndkv := by
        rw [XiniSection.ndkv, List.filterMap_append, ndkv_tailComment, List.append_nil]
        rfl
      have comments : (tailComment texts blank).foldl Loading.push ⟨p ++ [c], p.length⟩ =
          ⟨p ++ [behind], p.length⟩ :=
        push_body (sect_notMem_tailComment texts blank) (behindKeys ▸ keys)
      have fresh : folded s.key ∉ (p ++ [behind]).map foldedKey := by
        intro inside
        have apart : p ++ c :: s :: rest = (p ++ [c]) ++ s :: rest := by simp
        rw [apart, List.map_append, List.nodup_append] at distinct
        have own : (p ++ [behind]).map foldedKey = (p ++ [c]).map foldedKey := by
          rw [List.map_append, List.map_append]
          rfl
        exact distinct.2.2 _ (own ▸ inside) _ List.mem_cons_self rfl
      have nextKeys : next.ndkv = s.ndkv := by
        rw [XiniSection.ndkv, List.filterMap_append, List.filterMap_append, ndkv_taken, values]
        rfl
      have read : body.foldl Loading.push ⟨(p ++ [behind.keepTail]) ++
          [⟨s.key, taken ++ [sect s.key]⟩], (p ++ [behind.keepTail]).length⟩ =
            ⟨(p ++ [behind.keepTail]) ++ [next], (p ++ [behind.keepTail]).length⟩ :=
        push_body inner (by
          have own := (formed s List.mem_cons_self).keys
          rwa [← nextKeys] at own)
      have closes : Closed next.nodes ∨ rest = [] := by
        cases ends with
        | inl nothing => exact Or.inr nothing
        | inr blank =>
            refine Or.inl (Or.inr ?_)
            rw [List.getLast?_append, blank]
            rfl
      have same : ((p ++ [behind.keepTail]) ++ next :: rest).map foldedKey =
          (p ++ c :: s :: rest).map foldedKey := by
        rw [List.append_assoc, List.map_append, List.map_append, List.map_append]
        rfl
      obtain ⟨sects, last, run, some, outlines, nodes⟩ := ih (p := p ++ [behind.keepTail])
        (c := next) closes (nextKeys ▸ (formed s List.mem_cons_self).keys)
        (fun t member => formed t (List.mem_cons_of_mem s member))
        (fun t member => headed t (List.mem_cons_of_mem s member)) (same ▸ distinct)
      refine ⟨behind.keepTail :: sects, last, ?_, List.cons_ne_nil _ _, ?_, ?_⟩
      · rw [whole, List.foldl_append, comments, List.foldl_cons, push_sect fresh, List.foldl_append,
          read, run, List.append_assoc]
        rfl
      · have kept : behind.keepTail.ndkv = c.ndkv := (ndkv_kept behind.nodes).trans behindKeys
        have head : outline (behind.keepTail :: sects) = (c.key, behind.keepTail.ndkv) ::
            outline sects := rfl
        rw [head, kept, outlines]
        exact congrArg (fun values => (c.key, c.ndkv) :: (s.key, values) :: outline rest) nextKeys
      · have keeps : Closed behind.keepTail.nodes := closed_kept closed texts blank
        have behindNodes : behind.keepTail.nodes ++ taken = c.nodes ++ tailComment texts blank :=
          popTailComment_append behind.nodes
        rw [written_cons _ some, closing_of_closed keeps, nodes, whole, ← List.append_assoc c.nodes,
          ← behindNodes]
        simp [next]

/-- What is left out or added when a file without a nameless section is read. -/
def SameOutline (sects other : List XiniSection) : Prop :=
  outline other = outline sects ∨ outline other = ([], []) :: outline sects

theorem WellFormed.headed_tail {s : XiniSection} {rest : List XiniSection}
    (wf : WellFormed (s :: rest)) : ∀ t ∈ rest, Headed t := by
  intro t member
  refine (wf.formed t (List.mem_cons_of_mem s member)).place.resolve_left fun unnamed => ?_
  have nameless : foldedKey t = [] := congrArg folded unnamed.1
  exact wf.named (nameless ▸ List.mem_map_of_mem member)

/-- The sections of a file as it was written. -/
theorem reload_sects {sects : List XiniSection} (wf : WellFormed sects) :
    ∃ l, (written sects).foldl Loading.push ⟨[⟨[], []⟩], 0⟩ = l ∧
      SameOutline sects l.sects ∧ written l.sects = written sects := by
  cases sects with
  | nil => exact ⟨_, rfl, Or.inr rfl, rfl⟩
  | cons s rest =>
      have formed := wf.formed s List.mem_cons_self
      have rest_headed := wf.headed_tail
      have rest_formed := fun t member => wf.formed t (List.mem_cons_of_mem s member)
      cases formed.place with
      | inr first =>
          obtain ⟨l, last, run, -, outlines, nodes⟩ := reload (p := []) (c := ⟨[], []⟩) (s :: rest)
            (Or.inl (Or.inl rfl)) List.nodup_nil wf.formed
            (by
              intro t member
              cases member with
              | head => exact first
              | tail _ member => exact rest_headed t member)
            (List.nodup_cons.mpr ⟨by
              intro nameless
              cases List.mem_cons.mp nameless with
              | inl own => exact first.1 own.symm
              | inr later => exact wf.named later, wf.distinct⟩)
          exact ⟨_, run, Or.inr outlines, nodes⟩
      | inl unnamed =>
          have values : (XiniSection.mk [] (closing s.nodes)).ndkv = s.ndkv := ndkv_closing s.nodes
          cases rest with
          | nil =>
              refine ⟨_, push_body (p := []) (c := ⟨[], []⟩) unnamed.2 formed.keys, Or.inl ?_, rfl⟩
              exact congrArg (fun key => [(key, s.ndkv)]) unnamed.1.symm
          | cons t rest =>
              have body := push_body (p := []) (c := ⟨[], []⟩) (closing_inner unnamed.2)
                (values ▸ formed.keys)
              obtain ⟨l, last, run, -, outlines, nodes⟩ := reload (p := [])
                (c := ⟨[], closing s.nodes⟩) (t :: rest) (Or.inl (closed_closing s.nodes))
                (values ▸ formed.keys) rest_formed rest_headed
                (by
                  have distinct := wf.distinct
                  rw [List.map_cons, foldedKey, unnamed.1] at distinct
                  exact distinct)
              refine ⟨⟨l, last⟩, ?_, Or.inl (outlines.trans ?_), nodes⟩
              · rw [written, List.foldl_append]
                exact (congrArg (fun l => (written (t :: rest)).foldl Loading.push l) body).trans
                  run
              · have own : outline (s :: t :: rest) = (s.key, s.ndkv) :: outline (t :: rest) := rfl
                rw [own, unnamed.1, ← values]
                rfl

end

/-! ## Files -/

/-- The names of sections have no brackets of their own, and no key before the first heading
starts with a byte that could belong to an encoding mark. -/
structure Regular (sects : List XiniSection) : Prop where
  bare : ∀ o ∈ outline sects, Bare o.1
  start : ∀ o ∈ outline sects, o.1 = [] → ∀ e ∈ o.2, ∀ c ∈ e.1.head?, isText c = true

instance (sects : List XiniSection) : Decidable (Regular sects) :=
  decidable_of_iff ((∀ o ∈ outline sects, Bare o.1) ∧ ∀ o ∈ outline sects, o.1 = [] →
      ∀ e ∈ o.2, ∀ c ∈ e.1.head?, isText c = true)
    ⟨fun h => ⟨h.1, h.2⟩, fun h => ⟨h.1, h.2⟩⟩

theorem Regular.of_sameOutline {sects other : List XiniSection} (regular : Regular sects)
    (same : SameOutline sects other) : Regular other := by
  cases same with
  | inl same => exact ⟨same ▸ regular.bare, same ▸ regular.start⟩
  | inr added =>
      constructor
      · rw [added]
        intro o inside
        cases inside with
        | head => exact ⟨by simp, by simp⟩
        | tail _ inside => exact regular.bare o inside
      · rw [added]
        intro o inside nameless e member
        cases inside with
        | head => cases member
        | tail _ inside => exact regular.start o inside nameless e member

theorem value_of_sameOutline {sects other : List XiniSection}
    (distinct : (other.map foldedKey).Nodup) (same : SameOutline sects other) (n k : List Byte) :
    value other n k = value sects n k := by
  cases same with
  | inl same => exact value_congr same n k
  | inr added =>
      rw [map_foldedKey, added, List.map_cons, List.nodup_cons] at distinct
      have named : foldedName (([] : List Byte), ([] : List (List Byte × List Byte))) = [] := rfl
      rw [value_eq_outline, value_eq_outline, added]
      by_cases nameless : n = []
      · have missing : entry foldedName (outline sects) n = none := by
          rw [entry_eq_none]
          intro o inside own
          exact distinct.1 (named.trans nameless.symm ▸ own ▸ List.mem_map_of_mem inside)
        rw [entry_cons_self (named.trans nameless.symm), missing]
        rfl
      · rw [entry_cons_of_ne fun own => nameless (own.symm.trans named)]

/-- Reading the written lines gives the nodes one after the other. -/
theorem foldl_pushLine {sects : List XiniSection} (formed : ∀ s ∈ sects, Formed s)
    (bare : ∀ o ∈ outline sects, Bare o.1) (l : Loading) :
    ((written sects).map XiniNode.line).foldl Loading.pushLine l =
      (written sects).foldl Loading.push l := by
  have made : ∀ node ∈ written sects, makeNode node.line = some node := by
    intro node inside
    cases of_mem_written inside with
    | inl blank => rw [blank]; rfl
    | inr own =>
        obtain ⟨s, member, inside⟩ := own
        apply makeNode_line ((formed s member).legible node inside)
        rintro name rfl
        cases (formed s member).place with
        | inl unnamed => exact absurd inside (unnamed.2 name)
        | inr headed =>
            obtain ⟨-, texts, blank, body, nodes, inner⟩ := headed
            rw [nodes, List.mem_append, List.mem_cons] at inside
            have own : name = s.key := by
              rcases inside with front | own | behind
              · exact absurd front (sect_notMem_tailComment texts blank name)
              · cases own
                rfl
              · exact absurd behind (inner name)
            exact own ▸ bare (s.key, s.ndkv) (List.mem_map_of_mem member)
  generalize written sects = nodes at made
  induction nodes generalizing l with
  | nil => rfl
  | cons node nodes ih =>
      rw [List.map_cons, List.foldl_cons, List.foldl_cons,
        ih _ fun n inside => made n (List.mem_cons_of_mem node inside), Loading.pushLine,
        made node List.mem_cons_self]

/-- The first byte of the node's line cannot belong to an encoding mark. -/
def Starts (node : XiniNode) : Prop := ∀ c ∈ (node.line ++ [lineFeed]).head?, isText c = true

theorem starts_comment {text : List Byte} (legible : (comment text).Legible) :
    Starts (comment text) := by
  intro c first
  rw [XiniNode.line] at first
  cases text with
  | nil => cases legible.2 <;> contradiction
  | cons b text =>
      cases first
      cases legible.2 with
      | inl sign =>
          cases sign
          rfl
      | inr sign =>
          cases sign
          rfl

theorem starts_sect (name : List Byte) : Starts (sect name) := by
  intro c first
  cases first
  rfl

theorem starts_nilline : Starts nilline := by
  intro c first
  cases first
  rfl

theorem starts_headed {s : XiniSection} (headed : Headed s) (rest : List XiniSection)
    (legible : ∀ node ∈ written (s :: rest), node.Legible) :
    ∀ node ∈ (written (s :: rest)).head?, Starts node := by
  obtain ⟨texts, blank, body, whole, -, -⟩ := headed.written rest
  intro node first
  rw [whole] at first legible
  cases texts with
  | cons text texts =>
      cases first
      exact starts_comment (legible _ List.mem_cons_self)
  | nil =>
      cases blank with
      | true =>
          cases first
          exact starts_nilline
      | false =>
          cases first
          exact starts_sect s.key

theorem starts_unnamed {s : XiniSection} (formed : Formed s)
    (start : ∀ e ∈ s.ndkv, ∀ c ∈ e.1.head?, isText c = true) :
    ∀ node ∈ s.nodes.head?, Starts node := by
  intro node first
  have inside : node ∈ s.nodes := List.mem_of_mem_head? first
  have legible := formed.legible node inside
  cases node with
  | nilline => exact starts_nilline
  | comment text => exact starts_comment legible
  | sect name => exact starts_sect name
  | keyvalue key kname value =>
      have entry : (key, value) ∈ s.ndkv := List.mem_filterMap.mpr ⟨_, inside, rfl⟩
      intro c first
      rw [XiniNode.line, List.append_assoc, List.head?_append_of_ne_nil _ legible.nonempty] at first
      exact start _ entry c (legible.own ▸ first)

/-- A written file starts with a byte that is no part of an encoding mark. -/
theorem written_starts {sects : List XiniSection} (wf : WellFormed sects)
    (regular : Regular sects) : ∀ node ∈ (written sects).head?, Starts node := by
  have legible := legible_written fun s member => (wf.formed s member).legible
  cases sects with
  | nil =>
      intro node first
      cases first
  | cons s rest =>
      have formed := wf.formed s List.mem_cons_self
      cases formed.place with
      | inr headed => exact starts_headed headed rest legible
      | inl unnamed =>
          have own := starts_unnamed formed
            (regular.start (s.key, s.ndkv) List.mem_cons_self unnamed.1)
          cases rest with
          | nil => exact own
          | cons t rest =>
              rw [written] at legible ⊢
              cases nodes : s.nodes with
              | cons node others =>
                  intro first inside
                  have whole : (closing (node :: others)).head? = some node := by
                    unfold closing
                    split <;> rfl
                  rw [List.head?_append, whole] at inside
                  exact own first (nodes ▸ inside)
              | nil =>
                  have headed := wf.headed_tail t List.mem_cons_self
                  exact starts_headed headed rest fun node inside =>
                    legible node (List.mem_append_right _ inside)

theorem printSects_starts {sects : List XiniSection} (wf : WellFormed sects)
    (regular : Regular sects) : ∀ c ∈ (XiniFile.printSects sects).head?, isText c = true := by
  rw [printSects_eq fun s member => (wf.formed s member).legible]
  have starts := written_starts wf regular
  cases nodes : written sects with
  | nil =>
      intro c first
      cases first
  | cons node others =>
      rw [nodes] at starts
      intro c first
      rw [List.map_cons, unlines, List.flatMap_cons,
        List.head?_append_of_ne_nil _ (by simp)] at first
      exact starts node rfl c first

theorem skipHead_append {head text : List Byte} (mark : ∀ c ∈ head, isText c = false)
    (starts : ∀ c ∈ text.head?, isText c = true) :
    skipHead (head ++ text) = if text = [] then (head ++ [0xff], []) else (head, text) := by
  induction head with
  | nil =>
      cases text with
      | nil => rfl
      | cons c text =>
          rw [List.nil_append, skipHead, if_pos (starts c rfl), if_neg (List.cons_ne_nil _ _)]
  | cons b head ih =>
      rw [List.cons_append, skipHead, if_neg (by simp [mark b List.mem_cons_self]),
        ih fun c inside => mark c (List.mem_cons_of_mem b inside)]
      split <;> rfl

/-- The encoding mark has no NUL. -/
theorem cString_mark {head : List Byte} (mark : ∀ c ∈ head, isText c = false) :
    cString head = head := by
  apply List.takeWhile_eq_self_iff.mpr
  intro c inside
  have other : c ≠ 0 := by
    rintro rfl
    exact absurd (mark 0 inside) (by decide)
  simpa using other

/-- What reading and writing keep of a file. -/
structure XiniFile.Sound (f : XiniFile) : Prop where
  wellFormed : WellFormed f.sects
  regular : Regular f.sects
  mark : ∀ c ∈ f.head, isText c = false

theorem mark_skipHead (bytes : List Byte) : ∀ c ∈ (skipHead bytes).1, isText c = false := by
  induction bytes with
  | nil =>
      intro c inside
      rw [List.mem_singleton.mp inside]
      rfl
  | cons b rest ih =>
      rw [skipHead]
      split
      · intro c inside
        cases inside
      · rename_i mark
        intro c inside
        cases inside with
        | head => exact Bool.not_eq_true _ ▸ mark
        | tail _ inside => exact ih c inside

theorem sound_load {content : Option (List Byte)}
    (regular : Regular (XiniFile.load content).sects) :
    (XiniFile.load content).Sound := by
  refine ⟨wellFormed_load content, regular, ?_⟩
  cases content with
  | none =>
      intro c inside
      cases inside
  | some bytes => exact mark_skipHead bytes

theorem load_some (bytes : List Byte) : XiniFile.load (some bytes) =
    ⟨false, (skipHead bytes).1, (readLines (getlines (skipHead bytes).2)).sects⟩ := rfl

section

variable {f : XiniFile}

theorem XiniFile.Sound.skipHead_dump (sound : f.Sound) : skipHead f.dump =
    if printSects f.sects = [] then (f.head ++ [0xff], []) else (f.head, printSects f.sects) := by
  rw [XiniFile.dump, cString_mark sound.mark]
  exact skipHead_append sound.mark (printSects_starts sound.wellFormed sound.regular)

theorem XiniFile.Sound.reload (sound : f.Sound) :
    (XiniFile.load (some f.dump)).sects = (readLines (getlines (printSects f.sects))).sects := by
  rw [load_some, sound.skipHead_dump]
  split
  · rename_i empty
    rw [empty]
  · rfl

theorem XiniFile.Sound.sameOutline (sound : f.Sound) :
    SameOutline f.sects (XiniFile.load (some f.dump)).sects ∧
      written (XiniFile.load (some f.dump)).sects = written f.sects := by
  have wf := sound.wellFormed
  obtain ⟨l, run, same, nodes⟩ := reload_sects wf
  have legible := fun s member => (wf.formed s member).legible
  have plain : ∀ line ∈ (written f.sects).map XiniNode.line, Plain line := by
    intro line inside
    obtain ⟨node, member, rfl⟩ := List.mem_map.mp inside
    exact plain_line (legible_written legible node member)
  have read : readLines (getlines (printSects f.sects)) = l := by
    rw [printSects_eq legible, getlines_unlines plain, readLines,
      foldl_pushLine wf.formed sound.regular.bare, run]
  rw [sound.reload, read]
  exact ⟨same, nodes⟩

theorem XiniFile.Sound.load_dump (sound : f.Sound) : (XiniFile.load (some f.dump)).Sound :=
  sound_load (sound.regular.of_sameOutline sound.sameOutline.1)

/-- A file that is written and read again has the same values. -/
theorem XiniFile.Sound.value_load_dump (sound : f.Sound) (n k : List Byte) :
    value (XiniFile.load (some f.dump)).sects n k = value f.sects n k :=
  value_of_sameOutline (wellFormed_load _).distinct sound.sameOutline.1 n k

/-- It is written as it was before. -/
theorem XiniFile.Sound.dump_load_dump (sound : f.Sound) (text : printSects f.sects ≠ []) :
    (XiniFile.load (some f.dump)).dump = f.dump := by
  have head : (XiniFile.load (some f.dump)).head = f.head := by
    rw [load_some, sound.skipHead_dump, if_neg text]
  have wf := wellFormed_load (some f.dump)
  have lines : printSects (XiniFile.load (some f.dump)).sects = printSects f.sects := by
    rw [printSects_eq fun s member => (wf.formed s member).legible,
      printSects_eq fun s member => (sound.wellFormed.formed s member).legible, sound.sameOutline.2]
  conv_lhs => rw [XiniFile.dump, head, lines]
  rfl

end

/-- A file that is read and written has the same entries as before, and it does not change any more
when it is read and written again. -/
theorem dump_keeps {content : Option (List Byte)}
    (regular : Regular (XiniFile.load content).sects) (name key : List Byte) :
    (XiniFile.load (some (XiniFile.load content).dump)).lookup name key =
        (XiniFile.load content).lookup name key ∧
      (XiniFile.printSects (XiniFile.load content).sects ≠ [] →
        (XiniFile.load (some (XiniFile.load content).dump)).dump =
          (XiniFile.load content).dump) := by
  have sound := sound_load regular
  refine ⟨?_, sound.dump_load_dump⟩
  rw [lookup_eq, lookup_eq, sound.value_load_dump]

/-- A file with a comment before its first section and one after its last entry. -/
theorem dump_keeps_comments :
    let content := some (ascii "; top\n a = 1 \n\n[GENERAL SETTING]\nPT1_0_TEMP=0\n; end\n")
    (XiniFile.load (some (XiniFile.load content).dump)).lookup (ascii "general setting")
        (ascii "pt1_0_temp") =
      (XiniFile.load content).lookup (ascii "general setting") (ascii "pt1_0_temp") ∧
    (XiniFile.load (some (XiniFile.load content).dump)).dump = (XiniFile.load content).dump := by
  intro content
  obtain ⟨looked, dumped⟩ := dump_keeps (show Regular (XiniFile.load content).sects by decide)
    (ascii "general setting") (ascii "pt1_0_temp")
  exact ⟨looked, dumped (by decide)⟩

end Jincubator.Ini
