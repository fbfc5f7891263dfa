import ThreeAddress.Image
import ThreeAddress.Proofs.Meaning
import ThreeAddress.Proofs.WireRoundTrip

/-!
Images read back. Every image whose texts and lists are short enough for the wire decodes from its
own bytes, in whichever order its label index is listed. What decoding answers then depends on the
version first and on the program second.
-/

namespace ThreeAddress

open Wire Image

/-! ### What fits on the wire -/

def Value.Fits : Value → Prop
  | .integer _ => True
  | .text contents => TextFits contents
  | .globalRef name => TextFits name

def Operand.Fits : Operand → Prop
  | .variable name => TextFits name
  | .global name => TextFits name
  | .literal value => value.Fits

def Target.Fits (target : Target) : Prop := TextFits target.name ∧ target.pc < pcBound

def Callee.Fits (callee : Callee) : Prop :=
  TextFits callee.name ∧ ∀ entry ∈ callee.entry, entry < pcBound

def Instruction.Fits : Instruction → Prop
  | .assign dest value => TextFits dest ∧ value.Fits
  | .binary dest left _ right => TextFits dest ∧ left.Fits ∧ right.Fits
  | .goto target => target.Fits
  | .branch _ condition target => condition.Fits ∧ target.Fits
  | .argument value => value.Fits
  | .call dest callee => (∀ name ∈ dest, TextFits name) ∧ callee.Fits
  | .ret value => ∀ operand ∈ value, operand.Fits
  | .labelMarker name => TextFits name

def LabelFits (label : String × Nat) : Prop := TextFits label.1 ∧ label.2 < pcBound

instance : DecidablePred LabelFits := fun _ => inferInstanceAs (Decidable (_ ∧ _))

structure Program.Fits (program : Program) : Prop where
  size : program.instructions.toList.length < lengthBound
  instructions : ∀ instruction ∈ program.instructions.toList, instruction.Fits
  labelCount : program.labels.length < lengthBound
  labels : ∀ label ∈ program.labels, LabelFits label
  indexSize : program.labelIndex.size < lengthBound
  index : ∀ entry ∈ program.labelIndex.entries, LabelFits entry

structure Declaration.Fits (declaration : Declaration) : Prop where
  function : TextFits declaration.function
  count : declaration.params.length < lengthBound
  params : ∀ param ∈ declaration.params, TextFits param

structure Image.Fits (image : Image) : Prop where
  version : image.version < versionBound
  program : image.program.Fits
  count : image.params.length < lengthBound
  params : ∀ declaration ∈ image.params, declaration.Fits

/-- A map is made again from its entries in any order. -/
theorem NameMap.of_list_of_perm {α : Type} {map : NameMap α} {order : List (String × α)}
    (listing : order.Perm map.entries) : .ofList order = map := by
  have names : (map.entries.map Prod.fst).Nodup := by
    rw [List.Nodup, List.pairwise_map]
    apply map.ordered.imp
    intro left right less same
    rw [same] at less
    exact String.lt_irrefl right.1 less
  have distinct : (order.map Prod.fst).Nodup := (listing.map Prod.fst).nodup_iff.2 names
  apply ext_find
  intro name
  apply Option.ext
  intro value
  rw [find_of_list_eq_some_iff order distinct, find_eq_some_iff, listing.mem_iff]

namespace Image

-- A field is read by `reads_fill` alone; unification need not look into `fill`.
attribute [local irreducible] fill

/-! ### Instructions -/

theorem reads_value {value : Value} (fits : value.Fits) :
    Reads readValue (writeValue value) value := by
  cases value with
  | integer number =>
      apply reads_variant 0 (by decide)
      intro rest
      have lower := Int64.le_toInt number
      have upper := Int64.toInt_lt number
      have bytes : capacity 8 = 0x10000000000000000 := rfl
      have reads := reads_integer number.toInt (by omega) (by omega) rest
      simp [reads]
  | text contents =>
      exact reads_variant 1 (by decide) (reads_map (reads_text fits) _)
  | globalRef name =>
      exact reads_variant 2 (by decide) (reads_map (reads_text fits) _)

theorem reads_operand {operand : Operand} (fits : operand.Fits) :
    Reads readOperand (writeOperand operand) operand := by
  cases operand with
  | «variable» name =>
      exact reads_variant 0 (by decide) (reads_map (reads_text fits) _)
  | global name =>
      exact reads_variant 1 (by decide) (reads_map (reads_text fits) _)
  | literal value =>
      exact reads_variant 2 (by decide) (reads_map (reads_value fits) _)

theorem present_operand (operand : Operand) : Present (writeOperand operand) := by
  cases operand <;> exact present_variant _ _

theorem reads_pc {pc : Nat} (bounded : pc < pcBound) :
    Reads (readNatural pcBound) (writeNatural pc) pc :=
  reads_natural bounded (by decide)

theorem reads_target {target : Target} (fits : target.Fits) :
    Reads readTarget (writeTarget target) target := by
  apply reads_record (by simp [lengthBound])
  · apply Fills.field 0 (by decide) (reads_fill (reads_text fits.1) _)
    apply Fills.field 1 (by decide) (reads_fill (reads_flag target.global) _)
    apply Fills.field 2 (by decide) (reads_fill (reads_pc fits.2) _)
    apply Fills.done
  · rfl

theorem reads_callee {callee : Callee} (fits : callee.Fits) :
    Reads readCallee (writeCallee callee) callee := by
  have entry : Reads (readOption (readNatural pcBound)) (writeOption writeNatural callee.entry)
      callee.entry := by
    apply reads_option
    intro pc member
    have bounded := fits.2 pc member
    exact ⟨reads_pc bounded, present_natural bounded⟩
  apply reads_record (by simp [lengthBound])
  · apply Fills.field 0 (by decide) (reads_fill (reads_text fits.1) _)
    apply Fills.field 1 (by decide) (reads_fill (reads_flag callee.global) _)
    apply Fills.field 2 (by decide) (reads_fill entry _)
    apply Fills.done
  · rfl

theorem reads_operator (operator : BinaryOperator) :
    Reads readOperator (writeText (operatorName operator)) operator := by
  cases operator with
  | add => exact reads_choice 0 (by decide) rfl
  | sub => exact reads_choice 1 (by decide) rfl
  | mul => exact reads_choice 2 (by decide) rfl
  | div => exact reads_choice 3 (by decide) rfl
  | mod => exact reads_choice 4 (by decide) rfl
  | eq => exact reads_choice 5 (by decide) rfl
  | le => exact reads_choice 6 (by decide) rfl
  | ge => exact reads_choice 7 (by decide) rfl
  | gt => exact reads_choice 8 (by decide) rfl
  | lt => exact reads_choice 9 (by decide) rfl

theorem reads_polarity (polarity : Polarity) :
    Reads readPolarity (writeText (polarityName polarity)) polarity := by
  cases polarity with
  | ifZero => exact reads_choice 0 (by decide) rfl
  | ifNonZero => exact reads_choice 1 (by decide) rfl

theorem reads_instruction {instruction : Instruction} (fits : instruction.Fits) :
    Reads readInstruction (writeInstruction instruction) instruction := by
  cases instruction with
  | assign dest value =>
      apply reads_variant 0 (by decide)
      apply reads_record (by simp [lengthBound])
      · apply Fills.field 0 (by decide) (reads_fill (reads_text fits.1) _)
        apply Fills.field 1 (by decide) (reads_fill (reads_operand fits.2) _)
        apply Fills.done
      · rfl
  | binary dest left operator right =>
      apply reads_variant 1 (by decide)
      apply reads_record (by simp [lengthBound])
      · apply Fills.field 0 (by decide) (reads_fill (reads_text fits.1) _)
        apply Fills.field 1 (by decide) (reads_fill (reads_operand fits.2.1) _)
        apply Fills.field 2 (by decide) (reads_fill (reads_operator operator) _)
        apply Fills.field 3 (by decide) (reads_fill (reads_operand fits.2.2) _)
        apply Fills.done
      · rfl
  | goto target =>
      apply reads_variant 2 (by decide)
      apply reads_record (by simp [lengthBound])
      · apply Fills.field 0 (by decide) (reads_fill (reads_target fits) _)
        apply Fills.done
      · rfl
  | branch polarity condition target =>
      apply reads_variant 3 (by decide)
      apply reads_record (by simp [lengthBound])
      · apply Fills.field 0 (by decide) (reads_fill (reads_polarity polarity) _)
        apply Fills.field 1 (by decide) (reads_fill (reads_operand fits.1) _)
        apply Fills.field 2 (by decide) (reads_fill (reads_target fits.2) _)
        apply Fills.done
      · rfl
  | argument value =>
      apply reads_variant 4 (by decide)
      apply reads_record (by simp [lengthBound])
      · apply Fills.field 0 (by decide) (reads_fill (reads_operand fits) _)
        apply Fills.done
      · rfl
  | call dest callee =>
      have destination : Reads (readOption readText) (writeOption writeText dest) dest := by
        apply reads_option
        intro name member
        exact ⟨reads_text (fits.1 name member), present_text (fits.1 name member)⟩
      apply reads_variant 5 (by decide)
      apply reads_record (by simp [lengthBound])
      · apply Fills.field 0 (by decide) (reads_fill destination _)
        apply Fills.field 1 (by decide) (reads_fill (reads_callee fits.2) _)
        apply Fills.done
      · rfl
  | ret value =>
      have result : Reads (readOption readOperand) (writeOption writeOperand value) value := by
        apply reads_option
        intro operand member
        exact ⟨reads_operand (fits operand member), present_operand operand⟩
      apply reads_variant 6 (by decide)
      apply reads_record (by simp [lengthBound])
      · apply Fills.field 0 (by decide) (reads_fill result _)
        apply Fills.done
      · rfl
  | labelMarker name =>
      apply reads_variant 7 (by decide)
      apply reads_record (by simp [lengthBound])
      · apply Fills.field 0 (by decide) (reads_fill (reads_text fits) _)
        apply Fills.done
      · rfl

/-! ### Programs and images -/

theorem reads_label {label : String × Nat} (fits : LabelFits label) :
    Reads (readPair readText (readNatural pcBound)) (writeLabel label) label :=
  reads_pair (reads_text fits.1) (reads_pc fits.2)

def writeProgramIn (order : List (String × Nat)) (program : Program) : Bytes :=
  writeRecord [("instructions", writeList writeInstruction program.instructions.toList),
    ("labels", writeList writeLabel program.labels),
    ("label_index", writeMapHeader order.length ++
      order.flatMap fun entry => writeText entry.1 ++ writeNatural entry.2)]

/-- The ways to write an image. Its label index is a map, which has no order of its own. -/
inductive Written (image : Image) : Bytes → Prop
  | listed {order : List (String × Nat)} (listing : order.Perm image.program.labelIndex.entries) :
      Written image (writeRecord [("version", writeNatural image.version),
        ("program", writeProgramIn order image.program),
        ("params", writeList writeDeclaration image.params)])

theorem written_encode (image : Image) : Written image (encode image) :=
  .listed (.refl image.program.labelIndex.entries)

theorem reads_index {index : NameMap Nat} {order : List (String × Nat)}
    (listing : order.Perm index.entries) (bounded : index.size < lengthBound)
    (fits : ∀ entry ∈ index.entries, LabelFits entry) :
    Reads readIndex (writeMapHeader order.length ++
      order.flatMap fun entry => writeText entry.1 ++ writeNatural entry.2) index := by
  have entries : Reads (readEntries readText (readNatural pcBound)) (writeMapHeader order.length ++
      order.flatMap fun entry => writeText entry.1 ++ writeNatural entry.2) order := by
    apply reads_entries
    · rw [listing.length_eq]
      exact bounded
    · intro entry member
      have entryFits := fits entry (listing.mem_iff.1 member)
      exact ⟨reads_text entryFits.1, reads_pc entryFits.2⟩
  have restored := reads_map entries NameMap.ofList
  rw [NameMap.of_list_of_perm listing] at restored
  exact restored

theorem reads_program {program : Program} {order : List (String × Nat)} (fits : program.Fits)
    (listing : order.Perm program.labelIndex.entries) :
    Reads readProgram (writeProgramIn order program) program := by
  have instructions : Reads (readList readInstruction)
      (writeList writeInstruction program.instructions.toList) program.instructions.toList :=
    reads_list fits.size fun instruction member =>
      reads_instruction (fits.instructions instruction member)
  have labels : Reads (readList (readPair readText (readNatural pcBound)))
      (writeList writeLabel program.labels) program.labels :=
    reads_list fits.labelCount fun label member => reads_label (fits.labels label member)
  have index := reads_index listing fits.indexSize fits.index
  apply reads_record (by simp [lengthBound])
  · apply Fills.field 0 (by decide) (reads_fill instructions _)
    apply Fills.field 1 (by decide) (reads_fill labels _)
    apply Fills.field 2 (by decide) (reads_fill index _)
    apply Fills.done
  · rfl

theorem reads_declaration {declaration : Declaration} (fits : declaration.Fits) :
    Reads readDeclaration (writeDeclaration declaration) declaration := by
  have params : Reads (readList readText) (writeList writeText declaration.params)
      declaration.params :=
    reads_list fits.count fun param member => reads_text (fits.params param member)
  intro rest
  have pair := reads_pair (reads_text fits.function) params rest
  simp only [readDeclaration, writeDeclaration, pair, Option.map_some]

theorem reads_image {image : Image} {bytes : Bytes} (fits : image.Fits)
    (written : Written image bytes) : Reads readImage bytes image := by
  obtain ⟨listing⟩ := written
  have version : Reads (readNatural versionBound) (writeNatural image.version) image.version :=
    reads_natural fits.version (by decide)
  have params : Reads (readList readDeclaration) (writeList writeDeclaration image.params)
      image.params :=
    reads_list fits.count fun declaration member =>
      reads_declaration (fits.params declaration member)
  apply reads_record (by simp [lengthBound])
  · apply Fills.field 0 (by decide) (reads_fill version _)
    apply Fills.field 1 (by decide) (reads_fill (reads_program fits.program listing) _)
    apply Fills.field 2 (by decide) (reads_fill params _)
    apply Fills.done
  · rfl

theorem decode_of_read {image : Image} {bytes rest : Bytes}
    (read : readImage bytes = some (image, rest)) :
    decode bytes =
      if image.version = imageVersion then
        match image.program.check with
        | .ok () => .ok image
        | .error defect => .error (.invalidProgram defect)
      else .error (.unsupportedVersion image.version) := by
  simp only [decode, read, checkProgram]
  cases image.program.check <;> rfl

/-- However an image is written, it is read whole, and decoding gives it back if it is of this
version and its program has no defect. Another version is refused whatever the program. -/
theorem decode_written (image : Image) (fits : image.Fits) :
    Written image (encode image) ∧
      ∀ bytes, Written image bytes →
        readImage bytes = some (image, []) ∧
          (image.version = imageVersion → image.program.check = .ok () →
            decode bytes = .ok image) ∧
          (image.version ≠ imageVersion →
            decode bytes = .error (.unsupportedVersion image.version)) ∧
          (image.version = imageVersion → ∀ defect, image.program.check = .error defect →
            decode bytes = .error (.invalidProgram defect)) := by
  apply And.intro (written_encode image)
  intro bytes written
  have read : readImage bytes = some (image, []) := by
    have whole := reads_image fits written []
    rwa [List.append_nil] at whole
  apply And.intro read
  rw [decode_of_read read]
  refine ⟨?_, ?_, ?_⟩
  · intro current sound
    rw [if_pos current, sound]
  · intro other
    rw [if_neg other]
  · intro current defect found
    rw [if_pos current, found]

/-- A program whose numbers and texts need headers of several widths. -/
def edgeProgram : Program :=
  .ofParts
    [.assign "low" (.literal (.integer (-0x8000000000000000))),
      .binary "same" (.variable "low") .le (.literal (.integer (-0x21))),
      .assign "text" (.literal (.text "a text of more than thirty-one bytes")),
      .branch .ifZero (.variable "same") ⟨"end", true, 6⟩,
      .call none ⟨"print", true, none⟩,
      .call (some "high") ⟨"main", false, some 0⟩,
      .ret (some (.literal (.integer 0x100000000)))]
    [("main", 0), ("end", 6)]

def defectiveProgram : Program :=
  { edgeProgram with labels := ("lost", 0) :: edgeProgram.labels }

theorem edge_program_fits : edgeProgram.Fits where
  size := by decide
  instructions := by
    simp [edgeProgram, Program.ofParts, Instruction.Fits, Operand.Fits, Value.Fits, Target.Fits,
      Callee.Fits]
    decide
  labelCount := by decide
  labels := by decide
  indexSize := by decide
  index := by decide

theorem defective_program_fits : defectiveProgram.Fits :=
  { edge_program_fits with labelCount := by decide, labels := by decide }

def declaring (version : Nat) (program : Program) : Image := ⟨version, program, [⟨"main", ["p0"]⟩]⟩

theorem declaring_fits {version : Nat} {program : Program} (bounded : version < versionBound)
    (fits : program.Fits) : (declaring version program).Fits where
  version := bounded
  program := fits
  count := by simp [declaring, lengthBound]
  params := by
    simp only [declaring, List.forall_mem_singleton]
    constructor <;> decide

theorem decode_edge_images :
    decode (encode (declaring imageVersion edgeProgram)) =
        .ok (declaring imageVersion edgeProgram) ∧
      decode (encode (declaring 2 defectiveProgram)) = .error (.unsupportedVersion 2) ∧
      decode (encode (declaring imageVersion defectiveProgram)) =
        .error (.invalidProgram (.labelIndexMismatch "lost")) := by
  have sound := decode_written (declaring imageVersion edgeProgram)
    (declaring_fits (by decide) edge_program_fits)
  have newer := decode_written (declaring 2 defectiveProgram)
    (declaring_fits (by decide) defective_program_fits)
  have defective := decode_written (declaring imageVersion defectiveProgram)
    (declaring_fits (by decide) defective_program_fits)
  refine ⟨?_, ?_, ?_⟩
  · exact (sound.2 _ sound.1).2.1 rfl (by decide)
  · exact (newer.2 _ newer.1).2.2.1 (by decide)
  · exact (defective.2 _ defective.1).2.2.2 rfl _ (by decide)

end Image

end ThreeAddress
