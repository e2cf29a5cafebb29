import Mathlib.Data.List.Forall2
import Mathlib.Data.List.Nodup
import TypedQueries.Compilation
import TypedQueries.Proofs.RegistryIndex

/-!
Additions to a compilation, of single blocks and of query files, some of which may fail. At any time
the queries are those of the blocks that were added with success, in their order, and the origins are
the files of these blocks. An addition that fails leaves what was there before it failed.
-/

namespace TypedQueries

variable {r : Registry}

theorem name_of_generate {name : String} {kind : QueryKind} {s : Statement} {q : GeneratedQuery}
    (h : generate r name kind s = .ok q) : q.name = name := by
  obtain ⟨_, _, _, _, hq⟩ := exists_generated h
  exact hq.name_eq

theorem QueryBlock.name_of_compile {b : QueryBlock} {q : GeneratedQuery} (h : b.compile r = .ok q) :
    q.name = b.name := by
  obtain ⟨kind, -, h⟩ := bind_eq_ok.1 h
  obtain ⟨statement, -, h⟩ := bind_eq_ok.1 h
  exact name_of_generate h

theorem QueryBlock.map_name_of_compile {bs : List QueryBlock} {qs : List GeneratedQuery}
    (h : List.Forall₂ (fun b q => b.compile r = .ok q) bs qs) :
    qs.map GeneratedQuery.name = bs.map QueryBlock.name := by
  induction h with
  | nil => rfl
  | cons hq _ ih => rw [List.map_cons, List.map_cons, ih, name_of_compile hq]

/-- A call that adds queries. -/
inductive Addition where
  | file (name text : String)
  | block (b : QueryBlock)
  deriving DecidableEq, Repr

/-- The blocks that a call tries to add, in order. -/
def Addition.blocks : Addition → List QueryBlock
  | file name text => QueryBlock.ofText name text
  | block b => [b]

namespace Compilation

def add (c : Compilation) : Addition → Compilation × Option CompileError
  | .file name text => c.addFile name text
  | .block b => c.addBlock b

/-- Makes calls one by one, and goes on behind those that fail. -/
def addEach (c : Compilation) (calls : List Addition) : Compilation :=
  calls.foldl (fun c call => (c.add call).1) c

/-- The blocks in front of the first that fails. -/
def leading (c : Compilation) : List QueryBlock → List QueryBlock
  | [] => []
  | b :: bs =>
    match c.addBlock b with
    | (after, none) => b :: after.leading bs
    | (_, some _) => []

/-- The blocks, in order, that calls add with success. -/
def added (c : Compilation) : List Addition → List QueryBlock
  | [] => []
  | call :: calls => c.leading call.blocks ++ (c.add call).1.added calls

/-- Adding a block does one of three things. -/
theorem addBlock_cases (c : Compilation) (b : QueryBlock) :
    (∃ firstFile, c.origins.lookup b.name = some firstFile ∧
        c.addBlock b = (c, some (.duplicateQuery b.name firstFile b.file))) ∨
      c.origins.lookup b.name = none ∧
        ((∃ e, b.compile c.registry = .error e ∧
            c.addBlock b = (c, some (.inQuery b.name b.file e))) ∨
          ∃ q, b.compile c.registry = .ok q ∧ c.addBlock b =
            (⟨c.registry, c.queries ++ [q], (b.name, b.file) :: c.origins⟩, none)) := by
  unfold addBlock
  cases horigin : c.origins.lookup b.name with
  | some firstFile => exact Or.inl ⟨firstFile, rfl, rfl⟩
  | none =>
    cases hcompile : b.compile c.registry with
    | error e => exact Or.inr ⟨rfl, Or.inl ⟨e, rfl, rfl⟩⟩
    | ok q => exact Or.inr ⟨rfl, Or.inr ⟨q, rfl, rfl⟩⟩

section

variable {c d : Compilation} {b : QueryBlock} {bs : List QueryBlock} {e : CompileError}

theorem eq_of_addBlock_error (h : c.addBlock b = (d, some e)) : d = c := by
  rcases addBlock_cases c b with ⟨_, -, heq⟩ | ⟨-, ⟨_, -, heq⟩ | ⟨_, -, heq⟩⟩ <;>
    rw [heq] at h <;> cases h <;> rfl

/-- A call for a block is a call for a file that holds this block alone. -/
theorem add_eq_addBlocks (c : Compilation) (call : Addition) : c.add call = c.addBlocks call.blocks := by
  cases call with
  | file name text => rfl
  | block b =>
    simp only [add, Addition.blocks, addBlocks]
    split <;> rename_i heq <;> exact heq

/-- Where blocks are added up to the first that fails, those in front of it are added one by one. -/
theorem addBlocks_eq (c : Compilation) (bs : List QueryBlock) :
    (c.addBlocks bs).1 = c.addEach ((c.leading bs).map .block) := by
  induction bs generalizing c with
  | nil => rfl
  | cons b bs ih =>
    rcases h : c.addBlock b with ⟨after, _ | e⟩
    · have hstep : c.addEach ((b :: after.leading bs).map .block) =
          (c.addBlock b).1.addEach ((after.leading bs).map .block) := rfl
      simp only [addBlocks, leading, h, hstep]
      exact ih after
    · obtain rfl := eq_of_addBlock_error h
      simp [addBlocks, leading, h, addEach]

theorem leading_of_addBlocks_ok (h : (c.addBlocks bs).2 = none) : c.leading bs = bs := by
  induction bs generalizing c with
  | nil => rfl
  | cons b bs ih =>
    rcases hb : c.addBlock b with ⟨after, _ | e⟩ <;> simp only [addBlocks, leading, hb] at h ⊢
    · rw [ih h]
    · cases h

/-- If blocks are not all added, those in front of one are, and this one fails. -/
theorem exists_of_addBlocks_error (h : (c.addBlocks bs).2 = some e) :
    ∃ b after, bs = c.leading bs ++ b :: after ∧
      (c.addBlocks bs).1.addBlock b = ((c.addBlocks bs).1, some e) := by
  induction bs generalizing c with
  | nil => cases h
  | cons b bs ih =>
    rcases hb : c.addBlock b with ⟨after, _ | e'⟩ <;> simp only [addBlocks, leading, hb] at h ⊢
    · obtain ⟨failing, rest, heq, hfails⟩ := ih h
      exact ⟨failing, rest, by rw [List.cons_append, ← heq], hfails⟩
    · cases h
      obtain rfl := eq_of_addBlock_error hb
      exact ⟨b, bs, rfl, hb⟩

end

/-- The compilation holds the queries of the given blocks, in order, and the files they came from. -/
structure Holds (r : Registry) (blocks : List QueryBlock) (c : Compilation) : Prop where
  registry : c.registry = r
  queries : List.Forall₂ (fun b q => b.compile r = .ok q) blocks c.queries
  nodup : (blocks.map QueryBlock.name).Nodup
  origins : ∀ name file,
    c.origins.lookup name = some file ↔ ∃ b ∈ blocks, b.name = name ∧ b.file = file

theorem holds_ofRegistry (r : Registry) : (ofRegistry r).Holds r [] :=
  ⟨rfl, .nil, List.nodup_nil, fun name file => by simp [ofRegistry]⟩

namespace Holds

variable {blocks : List QueryBlock} {c : Compilation}

theorem map_name (h : c.Holds r blocks) :
    c.queries.map GeneratedQuery.name = blocks.map QueryBlock.name :=
  QueryBlock.map_name_of_compile h.queries

theorem isSome_origin (h : c.Holds r blocks) (name : String) :
    (c.origins.lookup name).isSome ↔ name ∈ c.queries.map GeneratedQuery.name := by
  rw [h.map_name, Option.isSome_iff_exists, List.mem_map]
  constructor
  · rintro ⟨file, hfile⟩
    obtain ⟨b, hb, hname, -⟩ := (h.origins name file).1 hfile
    exact ⟨b, hb, hname⟩
  · rintro ⟨b, hb, hname⟩
    exact ⟨b.file, (h.origins name b.file).2 ⟨b, hb, hname, rfl⟩⟩

/-- A block with a new name that compiles is held too. -/
theorem append (h : c.Holds r blocks) {b : QueryBlock} {q : GeneratedQuery}
    (hnew : c.origins.lookup b.name = none) (hq : b.compile c.registry = .ok q) :
    (Compilation.mk c.registry (c.queries ++ [q]) ((b.name, b.file) :: c.origins)).Holds r
      (blocks ++ [b]) := by
  have hfresh : b.name ∉ blocks.map QueryBlock.name := by
    rw [← h.map_name, ← h.isSome_origin, hnew]
    simp
  refine ⟨h.registry, ?_, ?_, ?_⟩
  · rw [h.registry] at hq
    exact List.rel_append h.queries (.cons hq .nil)
  · rw [List.map_append, List.map_singleton, ← List.concat_eq_append, List.nodup_concat]
    exact ⟨hfresh, h.nodup⟩
  · intro name file
    simp only [lookup_cons_of_new hnew, h.origins, List.mem_append, List.mem_singleton]
    constructor
    · rintro (⟨rfl, rfl⟩ | ⟨other, hother, hfound⟩)
      · exact ⟨b, Or.inr rfl, rfl, rfl⟩
      · exact ⟨other, Or.inl hother, hfound⟩
    · rintro ⟨other, hother | rfl, hfound⟩
      · exact Or.inr ⟨other, hother, hfound⟩
      · exact Or.inl hfound

theorem addBlocks (h : c.Holds r blocks) (bs : List QueryBlock) :
    (c.addBlocks bs).1.Holds r (blocks ++ c.leading bs) := by
  induction bs generalizing c blocks with
  | nil => simpa [Compilation.addBlocks, leading] using h
  | cons b bs ih =>
    rcases addBlock_cases c b with ⟨_, -, heq⟩ | ⟨hnew, ⟨_, -, heq⟩ | ⟨q, hq, heq⟩⟩ <;>
      simp only [Compilation.addBlocks, leading, heq]
    · simpa using h
    · simpa using h
    · simpa using ih (h.append hnew hq)

theorem addEach (h : c.Holds r blocks) (calls : List Addition) :
    (c.addEach calls).Holds r (blocks ++ c.added calls) := by
  induction calls generalizing c blocks with
  | nil => simpa [Compilation.addEach, added] using h
  | cons call calls ih =>
    have hcall : (c.add call).1.Holds r (blocks ++ c.leading call.blocks) := by
      rw [add_eq_addBlocks]
      exact h.addBlocks call.blocks
    rw [added, ← List.append_assoc]
    exact ih hcall

end Holds

/-- What a compilation is after calls that add queries, whichever of them failed. -/
structure Tracks (r : Registry) (calls : List Addition) (c : Compilation) : Prop where
  registry_eq : c.registry = r
  /-- The queries are those of the blocks that were added with success, in their order, -/
  queries : List.Forall₂ (fun b q => b.compile r = .ok q ∧ q.name = b.name)
    ((ofRegistry r).added calls) c.queries
  /-- with names that differ; -/
  nodup_names : (c.queries.map GeneratedQuery.name).Nodup
  /-- the origins have these names, -/
  origin_isSome_iff : ∀ name,
    (c.origins.lookup name).isSome ↔ name ∈ c.queries.map GeneratedQuery.name
  /-- each with the file of its block. -/
  origins : ∀ name file, c.origins.lookup name = some file ↔
    ∃ b ∈ (ofRegistry r).added calls, b.name = name ∧ b.file = file
  /-- A block is a duplicate if and only if a query has its name, whatever else the block holds, -/
  duplicate_iff : ∀ b, (∃ name firstFile secondFile,
      (c.addBlock b).2 = some (.duplicateQuery name firstFile secondFile)) ↔
    b.name ∈ c.queries.map GeneratedQuery.name
  /-- and the error names the files of both. -/
  duplicate_error : ∀ b name firstFile secondFile,
    (c.addBlock b).2 = some (.duplicateQuery name firstFile secondFile) →
      name = b.name ∧ c.origins.lookup b.name = some firstFile ∧ secondFile = b.file
  /-- Any other error is one of compiling the block, in its context. -/
  other_error : ∀ b e, (c.addBlock b).2 = some e →
    (∀ name firstFile secondFile, e ≠ .duplicateQuery name firstFile secondFile) →
      ∃ cause, b.compile r = .error cause ∧ e = .inQuery b.name b.file cause
  /-- A block that fails changes nothing. -/
  addBlock_error : ∀ b e, (c.addBlock b).2 = some e → (c.addBlock b).1 = c
  /-- A file that does not fail adds its blocks one by one. -/
  addFile_ok : ∀ file text, (c.addFile file text).2 = none →
    c.leading (QueryBlock.ofText file text) = QueryBlock.ofText file text ∧
      (c.addFile file text).1 = c.addEach ((QueryBlock.ofText file text).map .block)
  /-- A file that fails leaves what adding the blocks in front of the failing one gives. -/
  addFile_error : ∀ file text e, (c.addFile file text).2 = some e →
    ∃ before b after, QueryBlock.ofText file text = before ++ b :: after ∧
      c.leading (before ++ b :: after) = before ∧
      (c.addFile file text).1 = c.addEach (before.map .block) ∧
      (c.addEach (before.map .block)).addBlock b = (c.addEach (before.map .block), some e)

theorem tracks_addEach (r : Registry) (calls : List Addition) :
    ((ofRegistry r).addEach calls).Tracks r calls := by
  have h : ((ofRegistry r).addEach calls).Holds r ((ofRegistry r).added calls) :=
    (holds_ofRegistry r).addEach calls
  generalize (ofRegistry r).addEach calls = c at h ⊢
  refine ⟨h.registry, h.queries.imp fun b q hq => ⟨hq, QueryBlock.name_of_compile hq⟩,
    h.map_name ▸ h.nodup, h.isSome_origin, h.origins, ?_, ?_, ?_, ?_, ?_, ?_⟩
  · intro b
    rw [← h.isSome_origin]
    rcases addBlock_cases c b with ⟨firstFile, hfile, heq⟩ | ⟨hnew, ⟨e, -, heq⟩ | ⟨q, -, heq⟩⟩
    · simp [heq, hfile]
    · simp [heq, hnew]
    · simp [heq, hnew]
  · intro b name firstFile secondFile herror
    rcases addBlock_cases c b with ⟨file, hfile, heq⟩ | ⟨-, ⟨e, -, heq⟩ | ⟨q, -, heq⟩⟩ <;>
      rw [heq] at herror <;> cases herror
    exact ⟨rfl, hfile, rfl⟩
  · intro b e herror hother
    rcases addBlock_cases c b with ⟨file, -, heq⟩ | ⟨-, ⟨cause, hcause, heq⟩ | ⟨q, -, heq⟩⟩ <;>
      rw [heq] at herror <;> cases herror
    · exact absurd rfl (hother b.name file b.file)
    · exact ⟨cause, h.registry ▸ hcause, rfl⟩
  · intro b e herror
    exact eq_of_addBlock_error (Prod.ext rfl herror)
  · intro file text hok
    have hall := leading_of_addBlocks_ok hok
    refine ⟨hall, ?_⟩
    rw [addFile, addBlocks_eq, hall]
  · intro file text e herror
    obtain ⟨b, after, hblocks, hfails⟩ := exists_of_addBlocks_error herror
    rw [addBlocks_eq] at hfails
    exact ⟨_, b, after, hblocks, congrArg c.leading hblocks.symm, addBlocks_eq c _, hfails⟩

end Compilation

end TypedQueries
