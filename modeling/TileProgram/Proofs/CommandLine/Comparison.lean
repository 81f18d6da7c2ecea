import Mathlib
import TileProgram.CommandLine.Run
import TileProgram.Files.Tree
import TileProgram.Proofs.Container.Differences

/-!
# Comparing two files

The command that compares two programs looks at registers.  It tells apart two
files that can be read exactly when a register of one program is not that of the
other; flags, relocations, data and the bits beside the registers are not looked
at.
-/

namespace TileProgram
namespace CommandLine

open Files (Action Tree)

variable {tree : Tree} {first second : String} {firstBytes secondBytes : Bytes}
variable {left right : Container}

/-- The command prints the differences of the two programs, and changes no file. -/
theorem diffFiles_runOn
    (firstHeld : tree.read first = .ok firstBytes)
    (secondHeld : tree.read second = .ok secondBytes)
    (firstRead : Container.read firstBytes = .ok left)
    (secondRead : Container.read secondBytes = .ok right) :
    (diffFiles first second).runOn tree =
      (⟨if (Difference.ofContainers left right).isEmpty then 0 else 1,
        comparisonLines first second left.entries.length (Difference.ofContainers left right),
        none⟩, tree) := by
  have firstProgram : programOf (.ok firstBytes) = .ok left := firstRead
  have secondProgram : programOf (.ok secondBytes) = .ok right := secondRead
  simp only [diffFiles, Action.read, Action.answer, bind, Action.andThen, Action.runOn,
    Tree.answer, firstHeld, secondHeld, firstProgram, secondProgram, during, finish]
  rfl

/-- How the comparison of two files ends. -/
def comparison (tree : Tree) (first second : String) : Ending :=
  ((Command.diff first second).perform.runOn tree).1

theorem exitCode_comparison
    (firstHeld : tree.read first = .ok firstBytes)
    (secondHeld : tree.read second = .ok secondBytes)
    (firstRead : Container.read firstBytes = .ok left)
    (secondRead : Container.read secondBytes = .ok right) :
    (comparison tree first second).exitCode =
      if (Difference.ofContainers left right).isEmpty then 0 else 1 := by
  rw [comparison, Command.perform, diffFiles_runOn firstHeld secondHeld firstRead secondRead]

/-- Programs that are read are told apart by their registers. -/
theorem exitCode_comparison_eq_zero_iff
    (firstHeld : tree.read first = .ok firstBytes)
    (secondHeld : tree.read second = .ok secondBytes)
    (firstRead : Container.read firstBytes = .ok left)
    (secondRead : Container.read secondBytes = .ok right) :
    (comparison tree first second).exitCode = 0 ↔ left.SameRegisters right := by
  obtain ⟨leftFormed, leftStored⟩ := Container.wellFormed_of_read firstRead
  obtain ⟨rightFormed, rightStored⟩ := Container.wellFormed_of_read secondRead
  rw [exitCode_comparison firstHeld secondHeld firstRead secondRead,
    ← Container.ofContainers_eq_nil_iff leftFormed.records rightFormed.records
      (fun entry present => Container.builtIn_of_mem_stored (leftStored.symm ▸ present))
      (fun entry present => Container.builtIn_of_mem_stored (rightStored.symm ▸ present)),
    ← List.isEmpty_iff]
  cases (Difference.ofContainers left right).isEmpty <;> simp

/-- Two files that can be read end the comparison with success exactly when their
programs agree in their registers.  Their records then lie at the same
positions, and the files are the same exactly when the programs agree in
everything beside the registers too. -/
theorem comparison_succeeds_iff
    (firstHeld : tree.read first = .ok firstBytes)
    (secondHeld : tree.read second = .ok secondBytes)
    (firstRead : Container.read firstBytes = .ok left)
    (secondRead : Container.read secondBytes = .ok right) :
    ((comparison tree first second).exitCode = 0 ∨
        (comparison tree first second).exitCode = 1) ∧
      ((comparison tree first second).exitCode = 0 ↔ left.SameRegisters right) ∧
      ((comparison tree first second).exitCode = 0 →
        left.version = right.version ∧
          (left.entries.map fun entry => (entry.offset, entry.next)) =
            (right.entries.map fun entry => (entry.offset, entry.next)) ∧
          (firstBytes = secondBytes ↔ left.SameBeside right)) := by
  have agree := exitCode_comparison_eq_zero_iff firstHeld secondHeld firstRead secondRead
  have leftFormed := (Container.wellFormed_of_read firstRead).1
  have rightFormed := (Container.wellFormed_of_read secondRead).1
  refine ⟨?_, agree, ?_⟩
  · rw [exitCode_comparison firstHeld secondHeld firstRead secondRead]
    split
    · exact Or.inl rfl
    · exact Or.inr rfl
  · intro success
    have same := agree.mp success
    exact ⟨leftFormed.version.trans rightFormed.version.symm,
      same.places_eq leftFormed.records rightFormed.records,
      Container.bytes_eq_iff firstRead secondRead same⟩

/-! ## Two programs that differ in their data only -/

/-- A tree with two files. -/
def pair (first second : Bytes) : Tree :=
  { working := []
    nodes := [([], .directory), (["first"], .file first false), (["second"], .file second false)] }

theorem read_first_pair (first second : Bytes) : (pair first second).read "first" = .ok first := by
  cbv

theorem read_second_pair (first second : Bytes) :
    (pair first second).read "second" = .ok second := by
  cbv

/-- A program with another byte in its data, which no relocation locates. -/
def altered : Container :=
  { Container.curve with data := 1 :: Container.curve.data.tail }

theorem altered_wellFormed : altered.WellFormed where
  version := rfl
  few := by decide
  names := Container.curve_wellFormed.names
  records := Container.curve_linked
  tables := Container.curve_wellFormed.tables
  attached := by
    intro index entry present
    match index, present with
    | 0, rfl => rfl
    | 1, rfl => rfl
  addressable := by decide

/-- The program and the altered one have the same records at the same positions. -/
theorem altered_compared :
    ∃ tree : Tree, tree.read "first" = .ok Container.curve.write ∧
      tree.read "second" = .ok altered.write ∧
      Container.read Container.curve.write = .ok Container.curve.stored ∧
      Container.read altered.write = .ok altered.stored ∧
      ((comparison tree "first" "second").exitCode = 0 ↔
        Container.curve.stored.SameRegisters altered.stored) ∧
      ((comparison tree "first" "second").exitCode = 0 →
        (Container.curve.write = altered.write ↔
          Container.curve.stored.SameBeside altered.stored)) := by
  have firstRead := Container.read_write_eq Container.curve_wellFormed
  have secondRead := Container.read_write_eq altered_wellFormed
  obtain ⟨-, agree, rest⟩ := comparison_succeeds_iff
    (read_first_pair Container.curve.write altered.write)
    (read_second_pair Container.curve.write altered.write) firstRead secondRead
  exact ⟨_, read_first_pair _ _, read_second_pair _ _, firstRead, secondRead, agree,
    fun success => (rest success).2.2⟩

/-- Comparing a program with the altered one ends like comparing it with itself,
but the files are not the same. -/
theorem altered_not_noticed :
    ∃ (tree : Tree) (first second : String) (firstBytes secondBytes : Bytes)
        (left right : Container),
      tree.read first = .ok firstBytes ∧ tree.read second = .ok secondBytes ∧
        Container.read firstBytes = .ok left ∧ Container.read secondBytes = .ok right ∧
        (comparison tree first second).exitCode = 0 ∧ firstBytes ≠ secondBytes := by
  have firstRead := Container.read_write_eq Container.curve_wellFormed
  have secondRead := Container.read_write_eq altered_wellFormed
  refine ⟨pair Container.curve.write altered.write, "first", "second", _, _, _, _,
    read_first_pair _ _, read_second_pair _ _, firstRead, secondRead, ?_, ?_⟩
  · exact (exitCode_comparison_eq_zero_iff (read_first_pair _ _) (read_second_pair _ _)
      firstRead secondRead).mpr (Container.sameRegisters_stored rfl)
  · intro same
    rw [same, secondRead] at firstRead
    have data := congrArg Container.data (Except.ok.inj firstRead)
    exact absurd data (by decide)

end CommandLine
end TileProgram
