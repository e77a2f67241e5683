import FilterQuery.CommandLine.Run
import FilterQuery.Proofs.JsonText
/-!
# Stored tokens

Tokens are stored as JSON and read back as they were, floating-point numbers
apart: a string stays a string even if it looks like another value, and a
literal that stands for an operator and for a list operator is read as the one
that the kind of the token asks for.
-/

namespace FilterQuery

/-! ## Tokens as data -/

theorem ListOperator.ofLiteral?_literal (o : ListOperator) : ofLiteral? o.literal = some o := by
  cases o <;> decide

theorem Connective.ofLiteral?_literal (c : Connective) : ofLiteral? c.literal = some c := by
  cases c <;> decide

theorem Paren.ofLiteral?_literal (p : Paren) : ofLiteral? p.literal = some p := by
  cases p <;> decide

theorem Scalar.ofDatum?_toDatum (value : Scalar) : ofDatum? value.toDatum = some value := by
  cases value with
  | integer n =>
      rw [toDatum, ofDatum?, ofInt, if_pos ⟨n.minValue_le_toInt, n.toInt_le⟩, Int64.ofInt_toInt]
  | boolean | float | string => rfl

theorem Scalar.isReadable_toDatum (value : Scalar) : value.toDatum.isReadable = true := by
  cases value <;> rfl

theorem mapM_map_eq_some {α β : Type} {read? : β → Option α} {write : α → β}
    (h : ∀ item, read? (write item) = some item) (items : List α) :
    (items.map write).mapM read? = some items := by
  induction items with
  | nil => rfl
  | cons item items ih => simp [h, ih]

theorem Datum.areReadable_iff {items : List Datum} :
    areReadable items = true ↔ ∀ item ∈ items, item.isReadable = true := by
  induction items with
  | nil => simp [areReadable]
  | cons item items ih => simp [areReadable, ih]

theorem Datum.depths_le_iff {items : List Datum} {bound : Nat} :
    depths items ≤ bound ↔ ∀ item ∈ items, item.depth ≤ bound := by
  induction items with
  | nil => simp [depths]
  | cons item items ih => rw [depths, Nat.max_le, ih, List.forall_mem_cons]

namespace Token

theorem isReadable_toDatum (token : Token) : token.toDatum.isReadable = true := by
  cases token with
  | condition property operator value =>
      simp [toDatum, fields, Datum.isReadable, Datum.fieldsReadable, Scalar.isReadable_toDatum]
  | listCondition property operator values =>
      simp [toDatum, fields, Datum.isReadable, Datum.fieldsReadable, Datum.areReadable_iff,
        Scalar.isReadable_toDatum]
  | connective | paren | raw => rfl

theorem ne_typeName_of_mem_fields {token : Token} {field : Text × Datum}
    (h : field ∈ token.fields) : field.1 ≠ typeName := by
  have hnames : (token.fields.all fun field => field.1 != typeName) = true := by
    cases token <;> rfl
  simpa using List.all_eq_true.mp hnames field h

/-- The kind is taken off a record of which no other field is named like it. -/
theorem ofDatum?_record {kind : Text} {fields : List (Text × Datum)}
    (hreadable : (Datum.record ((typeName, .text kind) :: fields)).isReadable = true)
    (hnames : ∀ field ∈ fields, field.1 ≠ typeName) :
    ofDatum? (.record ((typeName, .text kind) :: fields)) = ofContent? kind (.record fields) := by
  have hother : fields.filter (fun field => field.1 == typeName) = [] :=
    List.filter_eq_nil_iff.mpr fun field hfield => by simp [hnames field hfield]
  have hcontent : fields.filter (fun field => field.1 != typeName) = fields :=
    List.filter_eq_self.mpr fun field hfield => by simp [hnames field hfield]
  simp [ofDatum?, hreadable, Datum.field?, Datum.fieldsNamed, hother, hcontent, Datum.text?]

theorem ofContent?_fields (token : Token) :
    ofContent? token.kind (.record token.fields) = some token := by
  cases token with
  | condition property operator value =>
      change (do
        some (Token.condition property (← Operator.ofLiteral? operator.literal)
          (← Scalar.ofDatum? value.toDatum))) = _
      rw [Operator.ofLiteral?_literal, Scalar.ofDatum?_toDatum]
      rfl
  | listCondition property operator values =>
      change (do
        some (Token.listCondition property (← ListOperator.ofLiteral? operator.literal)
          (← (values.map Scalar.toDatum).mapM Scalar.ofDatum?))) = _
      rw [ListOperator.ofLiteral?_literal, mapM_map_eq_some Scalar.ofDatum?_toDatum]
      rfl
  | connective c =>
      change (do some (Token.connective (← Connective.ofLiteral? c.literal))) = _
      rw [Connective.ofLiteral?_literal]
      rfl
  | paren p =>
      change (do some (Token.paren (← Paren.ofLiteral? p.literal))) = _
      rw [Paren.ofLiteral?_literal]
      rfl
  | raw text => rfl

/-- A token is read back from its datum, whatever is in it. -/
theorem ofDatum?_toDatum (token : Token) : ofDatum? token.toDatum = some token :=
  (ofDatum?_record token.isReadable_toDatum fun _ => ne_typeName_of_mem_fields).trans
    token.ofContent?_fields

/-- The values in a token. -/
def scalars : Token → List Scalar
  | .condition _ _ value => [value]
  | .listCondition _ _ values => values
  | _ => []

end Token

theorem tokensOfDatum?_tokensDatum (tokens : List Token) :
    tokensOfDatum? (tokensDatum tokens) = some tokens :=
  mapM_map_eq_some Token.ofDatum?_toDatum tokens

/-! ## What is read as it is written -/

theorem Scalar.isExact_toDatum {value : Scalar} (h : ∀ x, value ≠ .float x) :
    Json.IsExact value.toDatum := by
  cases value with
  | boolean value => exact .boolean value
  | integer n => exact .integer ⟨n.minValue_le_toInt, n.toInt_le⟩
  | float x => exact absurd rfl (h x)
  | string value => exact .text value

theorem Token.isExact_toDatum {token : Token} (h : ∀ x, .float x ∉ token.scalars) :
    Json.IsExact token.toDatum := by
  refine .record (List.forall_mem_cons.mpr ⟨.text _, ?_⟩)
  cases token with
  | condition property operator value =>
      have hvalue : Json.IsExact value.toDatum :=
        Scalar.isExact_toDatum fun x hx => h x (by simp [scalars, hx])
      refine List.forall_mem_cons.mpr ⟨.text _, List.forall_mem_cons.mpr ⟨.text _, ?_⟩⟩
      exact List.forall_mem_singleton.mpr hvalue
  | listCondition property operator values =>
      have hvalues : Json.IsExact (.list (values.map Scalar.toDatum)) := by
        refine .list fun item hitem => ?_
        obtain ⟨value, hvalue, rfl⟩ := List.mem_map.mp hitem
        exact Scalar.isExact_toDatum fun x hx => h x (hx ▸ hvalue)
      refine List.forall_mem_cons.mpr ⟨.text _, List.forall_mem_cons.mpr ⟨.text _, ?_⟩⟩
      exact List.forall_mem_singleton.mpr hvalues
  | connective c => exact List.forall_mem_singleton.mpr (.text _)
  | paren p => exact List.forall_mem_singleton.mpr (.text _)
  | raw text => exact List.forall_mem_singleton.mpr (.text _)

theorem isExact_tokensDatum {tokens : List Token}
    (h : ∀ token ∈ tokens, ∀ x, .float x ∉ token.scalars) : Json.IsExact (tokensDatum tokens) := by
  refine .list fun item hitem => ?_
  obtain ⟨token, htoken, rfl⟩ := List.mem_map.mp hitem
  exact Token.isExact_toDatum (h token htoken)

theorem Scalar.depth_toDatum (value : Scalar) : value.toDatum.depth = 0 := by cases value <;> rfl

theorem Token.depth_toDatum_le (token : Token) : token.toDatum.depth ≤ 2 := by
  cases token with
  | condition property operator value =>
      simp [toDatum, fields, Datum.depth, Datum.fieldsDepth, Scalar.depth_toDatum]
  | listCondition property operator values =>
      have hvalues : Datum.depths (values.map Scalar.toDatum) ≤ 0 := by
        refine Datum.depths_le_iff.mpr fun item hitem => ?_
        obtain ⟨value, -, rfl⟩ := List.mem_map.mp hitem
        exact Nat.le_of_eq value.depth_toDatum
      simp [toDatum, fields, Datum.depth, Datum.fieldsDepth, Nat.le_zero.mp hvalues]
  | connective | paren | raw => exact Nat.le_of_ble_eq_true rfl

theorem depth_tokensDatum_le (tokens : List Token) : (tokensDatum tokens).depth ≤ 3 := by
  refine Nat.succ_le_succ (Datum.depths_le_iff.mpr fun item hitem => ?_)
  obtain ⟨token, -, rfl⟩ := List.mem_map.mp hitem
  exact token.depth_toDatum_le

/-! ## Reading back -/

/-- Whatever writes JSON and whatever reads it, tokens are read back as they were. -/
theorem tokensOfDatum?_of_isWriter {write : Datum → Text} {read? : Text → Option Datum}
    (hwrite : Json.IsWriter write) (hread : Json.IsReader read?) {tokens : List Token}
    (h : ∀ token ∈ tokens, ∀ x, .float x ∉ token.scalars) :
    (read? (write (tokensDatum tokens)) >>= tokensOfDatum?) = some tokens := by
  have hdepth : (tokensDatum tokens).depth ≤ Json.depthLimit :=
    Nat.le_trans (depth_tokensDatum_le tokens) (by decide)
  rw [hread _ _ (hwrite _ (isExact_tokensDatum h)) hdepth]
  exact tokensOfDatum?_tokensDatum tokens

theorem Json.isReader_readBounded? : IsReader readBounded? := by
  intro text datum h hdepth
  simp [readBounded?, h.read?_eq, hdepth]

theorem tokensOfJson?_writeAt {s : Json.Spacing} (hs : s.IsBlank) {tokens : List Token}
    (h : ∀ token ∈ tokens, ∀ x, .float x ∉ token.scalars) (depth : Nat) :
    tokensOfJson? (Json.writeAt s depth (tokensDatum tokens)) = some tokens :=
  tokensOfDatum?_of_isWriter (Json.isWriter_writeAt hs depth) Json.isReader_readBounded? h

/-- What the program prints of a builder as data. -/
def Builder.reportDatum (b : Builder) : Datum :=
  .ofFields [("query", .text b.build), ("tokens", tokensDatum b.tokens)]

theorem report_eq {request : CommandLine.BuildRequest} (houtput : request.output = .json)
    (b : Builder) : request.report b = Json.writeAt .pretty 0 b.reportDatum := by
  rw [CommandLine.BuildRequest.report, houtput]
  rfl

/-- What is printed of a builder is a filter file with its tokens. -/
theorem FilterFile.ofJson?_report {request : CommandLine.BuildRequest}
    (houtput : request.output = .json) {b : Builder}
    (h : ∀ token ∈ b.tokens, ∀ x, .float x ∉ token.scalars) :
    ofJson? (request.report b) = some ⟨{}, b.tokens⟩ := by
  have hexact : Json.IsExact b.reportDatum :=
    .record (List.forall_mem_cons.mpr
      ⟨.text _, List.forall_mem_singleton.mpr (isExact_tokensDatum h)⟩)
  have hrelevant : relevant b.reportDatum = .record [(tokensName, tokensDatum b.tokens)] := rfl
  have hdepth : (Datum.record [(tokensName, tokensDatum b.tokens)]).depth ≤ Json.depthLimit := by
    have htokens := depth_tokensDatum_le b.tokens
    simp only [Datum.depth, Datum.fieldsDepth, Json.depthLimit] at htokens ⊢
    omega
  have hfile : ofDatum? (.record [(tokensName, tokensDatum b.tokens)]) =
      ofParts? [] [] [tokensDatum b.tokens] := rfl
  have hread := (hexact.denotes_writeAt Json.Spacing.isBlank_pretty 0).read?_eq
  rw [ofJson?, report_eq houtput, hread]
  simp [hrelevant, hdepth, hfile, ofParts?, part?, tokensOfDatum?_tokensDatum]

/-- Tokens without a floating-point number are read back from what is written of
them, whatever writes JSON and whatever reads it. So they are with the writer and
the reader of the program, without white space or with it at any depth, and from
what the program prints of a builder, where they stand among other fields. -/
theorem tokensOfJson?_write {tokens : List Token}
    (h : ∀ token ∈ tokens, ∀ x, .float x ∉ token.scalars) :
    (∀ (write : Datum → Text) (read? : Text → Option Datum), Json.IsWriter write →
      Json.IsReader read? → (read? (write (tokensDatum tokens)) >>= tokensOfDatum?) =
        some tokens) ∧
    tokensOfJson? (Json.write .compact (tokensDatum tokens)) = some tokens ∧
    (∀ depth, tokensOfJson? (Json.writeAt .pretty depth (tokensDatum tokens)) = some tokens) ∧
    ∀ (request : CommandLine.BuildRequest) (b : Builder), request.output = .json →
      b.tokens = tokens →
        Json.writeAt .pretty 1 (tokensDatum tokens) <:+: request.report b ∧
          FilterFile.ofJson? (request.report b) = some ⟨{}, tokens⟩ := by
  refine ⟨fun _ _ hwrite hread => tokensOfDatum?_of_isWriter hwrite hread h,
    tokensOfJson?_writeAt Json.Spacing.isBlank_compact h 0,
    tokensOfJson?_writeAt Json.Spacing.isBlank_pretty h, ?_⟩
  rintro request b houtput rfl
  refine ⟨?_, FilterFile.ofJson?_report houtput h⟩
  have hfield : ("tokens".toList, tokensDatum b.tokens) ∈
      [("query".toList, .text b.build), ("tokens".toList, tokensDatum b.tokens)] := by simp
  rw [report_eq houtput]
  exact Json.writeAt_infix_record .pretty 0 hfield

/-- Strings that look like other values, the least integer, characters that are
escaped, and one literal for an operator and for a list operator. -/
theorem tokensOfJson?_write_lookalikes :
    let tokens : List Token :=
      [.condition "Age".toList .isIn (.string "5".toList), .connective .or, .paren .opening,
        .listCondition "\"\\\x00\x1f\x7f😀".toList .isIn
          [.string "true".toList, .boolean true, .integer Int64.minValue, .string []],
        .raw "[\"\\u0041\", null]\n".toList]
    tokensOfJson? (Json.write .compact (tokensDatum tokens)) = some tokens ∧
      FilterFile.ofJson? (CommandLine.BuildRequest.report { path := [], output := .json }
        ⟨[], tokens, ⟨true, true⟩⟩) = some ⟨{}, tokens⟩ := by
  intro tokens
  have htokens : ∀ token ∈ tokens, ∀ x, .float x ∉ token.scalars := by
    simp [tokens, Token.scalars]
  have hread := tokensOfJson?_write htokens
  have hwrite : Json.IsWriter (Json.write .compact) :=
    Json.isWriter_writeAt Json.Spacing.isBlank_compact 0
  refine ⟨hread.1 _ _ hwrite Json.isReader_readBounded?, ?_⟩
  exact (hread.2.2.2 { path := [], output := .json } ⟨[], tokens, ⟨true, true⟩⟩ rfl rfl).2

end FilterQuery
