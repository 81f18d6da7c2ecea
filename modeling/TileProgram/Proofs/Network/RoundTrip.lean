import TileProgram.Network.Json
import TileProgram.Proofs.Json.Decoding

/-!
# Networks and their texts

Every part of a network is decoded from the document it is encoded as, unless it
holds an infinite single.  So a network that was read from a text is read back from
its own text, unless it holds one.
-/

/-!
## Decoding the documents of networks

Each part of a network is decoded from its own document.  The parts that hold
singles are decoded exactly when the singles are finite.
-/

namespace TileProgram

open Json Binary

namespace Tensor

theorem decode_encode (tensor : Tensor) : decode tensor.encode = some tensor := by
  obtain ⟨⟨group, depth, plane, row, column⟩, elementType⟩ := tensor
  have shape : Shape.decode (.array ([group, depth, plane, row, column].map fun extent =>
      .ofNat extent.toNat)) = some ⟨group, depth, plane, row, column⟩ := by
    rw [Shape.decode, Decoder.list_map_of_forall fun extent _ => Decoder.word_ofNat extent]
    rfl
  have element : ElementType.decode (.ofText elementType.name) = some elementType :=
    Decoder.named_ofText (by cases elementType <;> rfl)
  rw [decode, encode, Decoder.entries_ofMembers ["shape", "dtype"] rfl (by decide)]
  simp (disch := decide) only [Option.bind_eq_bind, Option.bind_some, Decoder.required_here,
    Decoder.required_there, Shape.extents, shape, element]
  rfl

theorem encode_isWritable (tensor : Tensor) : tensor.encode.IsWritable := by
  refine Value.ofMembers_isWritable fun member present => ?_
  rcases List.mem_cons.mp present with rfl | present
  · refine Value.array_isWritable fun item listed => ?_
    obtain ⟨extent, -, rfl⟩ := List.mem_map.mp listed
    exact Value.ofNat_isWritable _
  · obtain rfl := List.mem_singleton.mp present
    exact Value.ofText_isWritable _

end Tensor

namespace Activation

/-- The singles of an activation. -/
def numbers (activation : Activation) : List Single :=
  [activation.first, activation.second]

theorem decode_encode (activation : Activation) :
    decode activation.encode =
      if activation.numbers.all Single.isFinite then some activation else Option.none := by
  obtain ⟨kind, first, second⟩ := activation
  have selector : Decoder.named Decoder.isNull Kind.name Kind.all (.ofText kind.name) =
      some kind :=
    Decoder.named_ofText (by cases kind <;> rfl)
  rw [decode, encode, Decoder.entries_ofMembers ["kind", "a", "b"] rfl (by decide)]
  simp (disch := decide) only [Option.bind_eq_bind, Option.bind_some, Decoder.required_here,
    Decoder.withDefault_here, Decoder.withDefault_there, selector, single_ofSingle, numbers,
    Decoder.ite_some_bind, List.all_cons, List.all_nil, Bool.and_true, Bool.and_eq_true, ite_and]
  rfl

theorem encode_isWritable (activation : Activation) : activation.encode.IsWritable := by
  refine Value.ofMembers_isWritable fun member present => ?_
  simp only [List.mem_cons, List.not_mem_nil, or_false] at present
  rcases present with rfl | rfl | rfl
  · exact Value.ofText_isWritable _
  · exact Value.ofSingle_isWritable _
  · exact Value.ofSingle_isWritable _

end Activation

namespace Network

namespace Operation

theorem decodeByte_ofNat (value : UInt8) : decodeByte (.ofNat value.toNat) = some value := by
  rw [decodeByte, Decoder.natural_ofNat value.toNat_lt, Option.map_some, UInt8.ofNat_toNat]

theorem pair_encodePair (pair : UInt32 × UInt32) :
    Decoder.pair Decoder.word (encodePair pair) = some pair := by
  simp [Decoder.pair, encodePair]

theorem pair_encodePadding (pair : Int32 × Int32) :
    Decoder.pair Decoder.signedWord (encodePadding pair) = some pair := by
  simp [Decoder.pair, encodePadding]

/-- A byte is decoded from the only member of a record. -/
theorem onlyByte (key : String) (value : UInt8) :
    ((Decoder.entries [key] (.ofMembers [(key, .ofNat value.toNat)])).bind fun entries =>
      Decoder.required entries key decodeByte) = some value := by
  rw [Decoder.entries_ofMembers [key] rfl (by simp), Option.bind_some, Decoder.required_here,
    decodeByte_ofNat]

/-- The singles of an operation. -/
def numbers : Operation → List Single
  | .scaleBias scale bias => [scale, bias]
  | .normalization _ epsilon => [epsilon]
  | _ => []

/-- The parameters of an operation are decoded exactly when its singles are finite. -/
theorem decodeParameters_encodeParameters (operation : Operation) :
    decodeParameters operation.typeName (.ofMembers operation.encodeParameters) =
      if operation.numbers.all Single.isFinite then some operation else none := by
  cases operation with
  | convolution kernel stride padding groups =>
      rw [typeName, decodeParameters, encodeParameters,
        Decoder.entries_ofMembers ["kernel", "stride", "padding", "groups"] rfl (by decide)]
      simp (disch := decide) only [Option.bind_eq_bind, Option.bind_some, Decoder.required_here,
        Decoder.withDefault_here, Decoder.withDefault_there, pair_encodePair, pair_encodePadding,
        Decoder.word_ofNat]
      rfl
  | pooling mode kernel stride =>
      have modeNamed : Decoder.named Decoder.isNullOrEmpty PoolMode.name PoolMode.all
          (.ofText mode.name) = some mode :=
        Decoder.named_ofText (by cases mode <;> rfl)
      rw [typeName, decodeParameters, encodeParameters,
        Decoder.entries_ofMembers ["mode", "kernel", "stride"] rfl (by decide)]
      simp (disch := decide) only [Option.bind_eq_bind, Option.bind_some, Decoder.required_here,
        Decoder.required_there, Decoder.withDefault_here, Decoder.withDefault_there, modeNamed,
        pair_encodePair]
      rfl
  | pointwise operator =>
      have operatorNamed : Decoder.named Decoder.isNullOrEmpty Pointwise.name Pointwise.all
          (.ofText operator.name) = some operator :=
        Decoder.named_ofText (by cases operator <;> rfl)
      rw [typeName, decodeParameters, encodeParameters,
        Decoder.entries_ofMembers ["op"] rfl (by decide)]
      simp only [Option.bind_eq_bind, Option.bind_some, Decoder.required_here, operatorNamed]
      rfl
  | scaleBias scale bias =>
      rw [typeName, decodeParameters, encodeParameters,
        Decoder.entries_ofMembers ["scale", "bias"] rfl (by decide)]
      simp (disch := decide) only [Option.bind_eq_bind, Option.bind_some, Decoder.required_here,
        Decoder.required_there, single_ofSingle, Decoder.ite_some_bind, numbers, List.all_cons,
        List.all_nil, Bool.and_true, Bool.and_eq_true, ite_and]
      rfl
  | normalization kind epsilon =>
      have kindNamed : Decoder.named Decoder.isNullOrEmpty NormKind.name NormKind.all
          (.ofText kind.name) = some kind :=
        Decoder.named_ofText (by cases kind <;> rfl)
      rw [typeName, decodeParameters, encodeParameters,
        Decoder.entries_ofMembers ["kind", "eps"] rfl (by decide)]
      simp (disch := decide) only [Option.bind_eq_bind, Option.bind_some, Decoder.required_here,
        Decoder.withDefault_here, Decoder.withDefault_there, kindNamed, single_ofSingle, numbers,
        Decoder.ite_some_bind, List.all_cons, List.all_nil, Bool.and_true]
      rfl
  | concat axis => exact congrArg (Option.map Operation.concat) (onlyByte "axis" axis)
  | transpose mode => exact congrArg (Option.map Operation.transpose) (onlyByte "mode" mode)
  | broadcast mask => exact congrArg (Option.map Operation.broadcast) (onlyByte "mask" mask)
  | softmax axis => exact congrArg (Option.map Operation.softmax) (onlyByte "axis" axis)
  | reshape => rfl
  | matrixProduct => rfl
  | activation => rfl

/-! An operation is kept whole before its type is known. -/

/-- A document that an operation may have as a parameter. -/
structure IsParameter (value : Value) : Prop where
  isWritable : value.IsWritable
  isPlain : value.isPlain = true
  depth_le : value.depth ≤ 1

theorem isParameter_ofText (text : String) : IsParameter (.ofText text) :=
  ⟨Value.ofText_isWritable text, rfl, Nat.zero_le 1⟩

theorem isParameter_ofNat {value : Nat} (small : value < 2 ^ 32) : IsParameter (.ofNat value) :=
  ⟨Value.ofNat_isWritable value, Value.isPlain_ofNat (small.trans (by decide)), Nat.zero_le 1⟩

theorem isParameter_ofSingle (number : Single) : IsParameter (.ofSingle number) :=
  ⟨Value.ofSingle_isWritable number, Value.isPlain_ofSingle number,
    (Value.depth_ofSingle number).trans_le (Nat.zero_le 1)⟩

theorem isParameter_byte (value : UInt8) : IsParameter (.ofNat value.toNat) :=
  isParameter_ofNat (value.toNat_lt.trans (by decide))

theorem isParameter_pair
    {first second : Value}
    (firstGood : IsParameter first)
    (secondGood : IsParameter second)
    (firstFlat : first.depth = 0)
    (secondFlat : second.depth = 0) :
    IsParameter (.array [first, second]) where
  isWritable := Value.array_isWritable (by simp [firstGood.isWritable, secondGood.isWritable])
  isPlain := by simp [Value.isPlain, Value.itemsArePlain, firstGood.isPlain, secondGood.isPlain]
  depth_le := by simp [Value.depth, Value.depthOfItems, firstFlat, secondFlat]

theorem isParameter_encodePair (pair : UInt32 × UInt32) : IsParameter (encodePair pair) :=
  isParameter_pair (isParameter_ofNat pair.1.toNat_lt) (isParameter_ofNat pair.2.toNat_lt) rfl rfl

theorem isParameter_padding (value : Int32) : IsParameter (.ofInt value.toInt) where
  isWritable := Value.ofInt_isWritable _
  isPlain := by
    have least := value.le_toInt
    have greatest := value.toInt_lt
    exact Value.isPlain_ofInt (by omega) (by simp only [UInt64.size]; omega)
  depth_le := Nat.zero_le 1

theorem isParameter_encodePadding (pair : Int32 × Int32) : IsParameter (encodePadding pair) :=
  isParameter_pair (isParameter_padding pair.1) (isParameter_padding pair.2) rfl rfl

theorem isParameter_of_mem
    {operation : Operation}
    {member : String × Value}
    (present : member ∈ operation.encodeParameters) :
    IsParameter member.2 := by
  cases operation <;>
    simp only [encodeParameters, List.mem_cons, List.not_mem_nil, or_false] at present
  case convolution =>
    rcases present with rfl | rfl | rfl | rfl
    · exact isParameter_encodePair _
    · exact isParameter_encodePair _
    · exact isParameter_encodePadding _
    · exact isParameter_ofNat (UInt32.toNat_lt _)
  case pooling =>
    rcases present with rfl | rfl | rfl
    · exact isParameter_ofText _
    · exact isParameter_encodePair _
    · exact isParameter_encodePair _
  case scaleBias =>
    rcases present with rfl | rfl
    · exact isParameter_ofSingle _
    · exact isParameter_ofSingle _
  case normalization =>
    rcases present with rfl | rfl
    · exact isParameter_ofText _
    · exact isParameter_ofSingle _
  case pointwise =>
    subst present
    exact isParameter_ofText _
  all_goals
    subst present
    exact isParameter_byte _

theorem encode_isWritable (operation : Operation) : operation.encode.IsWritable := by
  refine Value.ofMembers_isWritable fun member present => ?_
  rcases List.mem_cons.mp present with rfl | present
  · exact Value.ofText_isWritable _
  · exact (isParameter_of_mem present).isWritable

theorem canBeKept_encode
    (operation : Operation)
    {outer : Nat}
    (shallow : outer + 2 ≤ greatestDepth) :
    operation.encode.canBeKept outer = true := by
  have parameters : ∀ member ∈ ("type", Value.ofText operation.typeName) ::
      operation.encodeParameters, IsParameter member.2 :=
    List.forall_mem_cons.mpr
      ⟨isParameter_ofText _, fun _ present => isParameter_of_mem present⟩
  have plain : operation.encode.isPlain = true :=
    Value.isPlain_ofMembers fun member present => (parameters member present).isPlain
  have deep : operation.encode.depth ≤ 1 + 1 :=
    Value.depth_ofMembers_le fun member present => (parameters member present).depth_le
  rw [Value.canBeKept, plain, Bool.true_and, decide_eq_true_eq]
  omega

theorem type_notMem (operation : Operation) :
    "type" ∉ operation.encodeParameters.map Prod.fst := by
  cases operation <;> simp [encodeParameters]

/-- An operation is decoded exactly when its singles are finite. -/
theorem decode_encode
    (operation : Operation)
    {outer : Nat}
    (shallow : outer + 2 ≤ greatestDepth) :
    decode outer operation.encode =
      if operation.numbers.all Single.isFinite then some operation else none := by
  have others : ∀ member ∈ operation.encodeParameters.map
      (fun member : String × Value => ((some member.1, member.2) : Quoted × Value)),
      member.1 ≠ some "type" := by
    intro member present
    obtain ⟨parameter, listed, rfl⟩ := List.mem_map.mp present
    exact fun equal =>
      operation.type_notMem (Option.some.inj equal ▸ List.mem_map_of_mem listed)
  have kept := canBeKept_encode operation shallow
  unfold decode
  rw [if_pos kept, ← decodeParameters_encodeParameters]
  simp only [encode, Value.ofMembers, List.map_cons, withoutKey]
  rw [List.filter_cons_of_pos (by rfl), List.filter_cons_of_neg (by simp),
    List.filter_eq_nil_iff.mpr (by simpa using others),
    List.filter_eq_self.mpr (by simpa using others)]
  rfl

end Operation

/-! ### Operands and nodes -/

/-- An operand can be written as an unsigned integer of 64 bits. -/
def Operand.Fits : Operand → Prop
  | .input index => index < 2 ^ 64
  | .node index => index < 2 ^ 64

theorem Operand.decode_encode {operand : Operand} (fits : operand.Fits) :
    decode operand.encode = some operand := by
  cases operand with
  | input index =>
      show (Decoder.natural 64 (.ofNat index)).map Operand.input = _
      rw [Decoder.natural_ofNat fits, Option.map_some]
  | node index =>
      show (Decoder.natural 64 (.ofNat index)).map Operand.node = _
      rw [Decoder.natural_ofNat fits, Option.map_some]

theorem Operand.encode_isWritable (operand : Operand) : operand.encode.IsWritable := by
  cases operand <;> exact Value.ofMembers_isWritable (by simp [Value.ofNat_isWritable])

namespace Node

/-- The singles of a node. -/
def numbers (node : Node) : List Single :=
  node.operation.numbers ++ node.activation.numbers ++ node.weights.getD [] ++
    node.samples.getD []

theorem optional_list_singles (numbers : List Single) :
    Decoder.optional (Decoder.list Decoder.single) (.array (numbers.map Value.ofSingle)) =
      if numbers.all Single.isFinite then some (some numbers) else none := by
  show (Decoder.list Decoder.single _).map some = _
  rw [Decoder.list_singles]
  split <;> rfl

/-- A node is decoded exactly when its singles are finite. -/
theorem decode_encode
    {node : Node}
    {outer : Nat}
    (shallow : outer + 3 ≤ greatestDepth)
    (fits : ∀ operand ∈ node.operands, operand.Fits) :
    decode outer node.encode = if node.numbers.all Single.isFinite then some node else none := by
  obtain ⟨operation, operands, output, activation, weights, samples⟩ := node
  have operandsListed : Decoder.list Operand.decode (.array (operands.map Operand.encode)) =
      some operands :=
    Decoder.list_map_of_forall fun operand listed => Operand.decode_encode (fits operand listed)
  have operationRead := operation.decode_encode (show outer + 1 + 2 ≤ greatestDepth by omega)
  rw [decode, encode]
  rcases weights with _ | weights <;> rcases samples with _ | samples <;>
    rw [Decoder.entries_ofMembers _ rfl (by simp [encodeNumbers])] <;>
    simp (disch := decide) only [encodeNumbers, List.cons_append, List.nil_append,
      List.append_nil, Option.bind_eq_bind, Option.bind_some, Decoder.required_here,
      Decoder.required_there, Decoder.withDefault_here, Decoder.withDefault_there,
      Decoder.withDefault_missing, operationRead, operandsListed, output.decode_encode,
      activation.decode_encode, optional_list_singles] <;>
    simp only [Decoder.ite_some_bind, numbers, List.all_append, List.all_nil, Bool.and_true,
      Bool.and_eq_true, ite_and, Option.getD] <;>
    rfl

theorem encodeNumbers_isWritable
    {key : String}
    {numbers : Option (List Single)}
    {member : String × Value}
    (present : member ∈ encodeNumbers key numbers) :
    member.2.IsWritable := by
  cases numbers with
  | none => cases present
  | some numbers =>
      obtain rfl := List.mem_singleton.mp present
      refine Value.array_isWritable fun item listed => ?_
      obtain ⟨number, -, rfl⟩ := List.mem_map.mp listed
      exact Value.ofSingle_isWritable number

theorem encode_isWritable (node : Node) : node.encode.IsWritable := by
  refine Value.ofMembers_isWritable fun member present => ?_
  rcases List.mem_append.mp present with present | present
  · rcases List.mem_append.mp present with present | present
    · simp only [List.mem_cons, List.not_mem_nil, or_false] at present
      rcases present with rfl | rfl | rfl | rfl
      · exact node.operation.encode_isWritable
      · refine Value.array_isWritable fun item listed => ?_
        obtain ⟨operand, -, rfl⟩ := List.mem_map.mp listed
        exact operand.encode_isWritable
      · exact node.output.encode_isWritable
      · exact node.activation.encode_isWritable
    · exact encodeNumbers_isWritable present
  · exact encodeNumbers_isWritable present

end Node

/-! ### Networks -/

/-- The singles of a network: the parameters, activations, weights and samples of all nodes. -/
def numbers (network : Network) : List Single :=
  network.nodes.flatMap Node.numbers

/-- Every operand of a network can be written as an unsigned integer of 64 bits. -/
def OperandsFit (network : Network) : Prop :=
  ∀ operand ∈ network.operands, operand.Fits

/-- A network is decoded from its document exactly when its singles are finite. -/
theorem decode_encode {network : Network} (fits : network.OperandsFit) :
    decode network.encode =
      if network.numbers.all Single.isFinite then some network else none := by
  obtain ⟨inputs, nodes⟩ := network
  have inputsListed : Decoder.list Tensor.decode (.array (inputs.map Tensor.encode)) =
      some inputs :=
    Decoder.list_map_of_forall fun tensor _ => tensor.decode_encode
  have nodesListed : Decoder.list (Node.decode 2) (.array (nodes.map Node.encode)) =
      if nodes.all (fun node => node.numbers.all Single.isFinite) then some nodes else none :=
    Decoder.list_map fun node listed =>
      Node.decode_encode (by decide) fun operand present =>
        fits operand (List.mem_flatMap.mpr ⟨node, listed, present⟩)
  rw [decode, encode, Decoder.entries_ofMembers ["inputs", "ops"] rfl (by decide)]
  simp (disch := decide) only [Option.bind_eq_bind, Option.bind_some, Decoder.required_here,
    Decoder.required_there, inputsListed, nodesListed, Decoder.ite_some_bind, numbers,
    List.all_flatMap]
  rfl

theorem encode_isWritable (network : Network) : network.encode.IsWritable := by
  refine Value.ofMembers_isWritable fun member present => ?_
  simp only [List.mem_cons, List.not_mem_nil, or_false] at present
  rcases present with rfl | rfl
  · refine Value.array_isWritable fun item listed => ?_
    obtain ⟨tensor, -, rfl⟩ := List.mem_map.mp listed
    exact tensor.encode_isWritable
  · refine Value.array_isWritable fun item listed => ?_
    obtain ⟨node, -, rfl⟩ := List.mem_map.mp listed
    exact node.encode_isWritable

end Network

end TileProgram

/-!
## Reading a network back

The text of a network that was read from a text is read as the same network,
unless one of its singles is infinite.  An infinite single is written as `null`,
which no single is read from.
-/

namespace TileProgram
namespace Network

open Json Binary

theorem Operand.fits_of_decode
    {value : Value}
    {operand : Operand}
    (decoded : decode value = some operand) :
    operand.Fits := by
  unfold decode at decoded
  split at decoded
  · obtain ⟨index, read, rfl⟩ := Option.map_eq_some_iff.mp decoded
    exact Decoder.lt_of_natural read
  · obtain ⟨index, read, rfl⟩ := Option.map_eq_some_iff.mp decoded
    exact Decoder.lt_of_natural read
  · cases decoded

theorem Node.operands_fit_of_decode
    {outer : Nat}
    {value : Value}
    {node : Node}
    (decoded : decode outer value = some node) :
    ∀ operand ∈ node.operands, operand.Fits := by
  simp only [decode, Option.bind_eq_bind, Option.bind_eq_some_iff, Option.pure_def,
    Option.some.injEq] at decoded
  obtain ⟨entries, -, operation, -, operands, operandsRead, output, -, activation, -, weights, -,
    samples, -, rfl⟩ := decoded
  obtain ⟨listed, operandsListed⟩ := Decoder.exists_of_required operandsRead
  intro operand present
  obtain ⟨item, itemRead⟩ := Decoder.exists_of_list operandsListed operand present
  exact Operand.fits_of_decode itemRead

/-- The operands of a network that was read are unsigned integers of 64 bits. -/
theorem operandsFit_of_ofJson
    {text : String}
    {network : Network}
    (accepted : ofJson text = some network) :
    network.OperandsFit := by
  obtain ⟨document, -, decoded⟩ := Option.bind_eq_some_iff.mp accepted
  simp only [decode, Option.bind_eq_bind, Option.bind_eq_some_iff, Option.pure_def,
    Option.some.injEq] at decoded
  obtain ⟨entries, -, inputs, -, nodes, nodesRead, rfl⟩ := decoded
  obtain ⟨listed, nodesListed⟩ := Decoder.exists_of_required nodesRead
  intro operand present
  obtain ⟨node, nodePresent, operandPresent⟩ := List.mem_flatMap.mp present
  obtain ⟨item, itemRead⟩ := Decoder.exists_of_list nodesListed node nodePresent
  exact Node.operands_fit_of_decode itemRead operand operandPresent

/-- The text of any network is well formed and describes the document of the network. -/
theorem read_toJson (network : Network) : Json.read network.toJson = some network.encode :=
  read_pretty network.encode_isWritable

/-- The text of a network that was read from a text is read as the same network if the singles of
the network are finite, and refused otherwise. -/
theorem ofJson_toJson
    {text : String}
    {network : Network}
    (accepted : ofJson text = some network) :
    ofJson network.toJson =
      if network.numbers.all Single.isFinite then some network else none := by
  rw [ofJson, read_toJson, Option.bind_some, decode_encode (operandsFit_of_ofJson accepted)]

/-- A network whose weights are as small and as large as a single can be, as a text. -/
def extremesText : String :=
  "\x7b\"ops\":[\x7b\"kind\":\x7b\"type\":\"convolution\",\"kernel\":[2,1]\x7d,\"inputs\":" ++
    "[\x7b\"input\":0\x7d],\"output\":\x7b\"shape\":[1,1,2,1,2],\"dtype\":\"float16\"\x7d," ++
    "\"weights\":[0.1,-0.0,1e-45,34028235e31],\"lut\":[]\x7d]," ++
    "\"inputs\":[\x7b\"shape\":[1,1,2,1,2],\"dtype\":\"float16\"\x7d]\x7d"

/-- The network that the text describes. -/
def extremes : Network :=
  { inputs := [⟨⟨1, 1, 2, 1, 2⟩, .half⟩]
    nodes :=
      [⟨.convolution (2, 1) (1, 1) (0, 0) 1, [.input 0], ⟨⟨1, 1, 2, 1, 2⟩, .half⟩, .none,
        some [⟨0x3DCCCCCD⟩, ⟨0x80000000⟩, ⟨1⟩, ⟨0x7F7FFFFF⟩], some []⟩] }

set_option maxRecDepth 4000 in
theorem ofJson_extremesText : ofJson extremesText = some extremes := by
  decide +kernel

theorem extremes_read_back :
    ofJson extremesText = some extremes ∧ ofJson extremes.toJson = some extremes := by
  refine ⟨ofJson_extremesText, ?_⟩
  rw [ofJson_toJson ofJson_extremesText, if_pos (by decide +kernel)]

/-- A network that scales by a number too large for a single, as a text. -/
def overflowText : String :=
  "\x7b\"inputs\":[\x7b\"shape\":[1,1,1,1,4],\"dtype\":\"float16\"\x7d],\"ops\":[\x7b\"kind\":" ++
    "\x7b\"type\":\"scale_bias\",\"scale\":1e39,\"bias\":0.5\x7d,\"inputs\":[\x7b\"input\":0\x7d]," ++
    "\"output\":\x7b\"shape\":[1,1,1,1,4],\"dtype\":\"float16\"\x7d\x7d]\x7d"

/-- The network that the text describes: its scale is infinite. -/
def overflow : Network :=
  { inputs := [⟨⟨1, 1, 1, 1, 4⟩, .half⟩]
    nodes :=
      [⟨.scaleBias ⟨0x7F800000⟩ ⟨0x3F000000⟩, [.input 0], ⟨⟨1, 1, 1, 1, 4⟩, .half⟩, .none,
        none, none⟩] }

/-- The text of a network that was read is refused. -/
theorem overflow_not_read_back :
    ofJson overflowText = some overflow ∧ ofJson overflow.toJson = none := by
  refine ⟨by decide +kernel, ?_⟩
  rw [ofJson, read_toJson, Option.bind_some]
  decide +kernel

end Network
end TileProgram
