import FilterQuery.Proofs.JsonGrammar
import FilterQuery.Proofs.Rendering

/-!
# Filter documents are JSON

If the values of a condition are JSON, so is what the MongoDB dialect writes for it, and it stands
for the document with the structure of the condition (`render_mongo_isText`).

A key is written as a JSON string for the code units of the key, whatever its characters
(`Json.isString_quote`), so that it cannot end before its closing quote. The documents are then put
together as the grammar of JSON is: first the object with one member, then arrays of documents.
-/

namespace FilterQuery

open Grammar

theorem Dialect.Mongo.toList_array (elements : String) :
    (array elements).toList = '[' :: (elements.toList ++ [']']) := by
  simp [array]

/-! ### Quoted keys -/

namespace Json

variable {α β : Type} {Part : List Char → α → Prop} {text : List Char} {a : α} {v : Json}

theorem isPiece_control {c : Char} (h : c.toNat < 32) :
    IsPiece ('\\' :: 'u' :: Hex.padded 4 (Hex.lower c.toNat)) (Utf16.units c) := by
  have hu : Utf16.units c =
      [UInt16.ofNat (((0 * 16 + 0) * 16 + c.toNat / 16) * 16 + c.toNat % 16)] := by
    rw [Utf16.units, if_pos (by omega)]
    congr 2
    omega
  rw [Hex.padded_lower h, hu]
  exact .code rfl rfl (Hex.value?_digitChar (by omega)) (Hex.value?_digitChar (by omega))

theorem isPiece_quoteChar (c : Char) : IsPiece (JsonString.quoteChar c) (Utf16.units c) := by
  unfold JsonString.quoteChar
  split_ifs with hq hb h₁ h₂ h₃ h₄ h₅ hc
  · subst hq; exact .short rfl
  · subst hb; exact .short rfl
  · subst h₁; exact .short rfl
  · subst h₂; exact .short rfl
  · subst h₃; exact .short rfl
  · subst h₄; exact .short rfl
  · subst h₅; exact .short rfl
  · exact isPiece_control hc
  · exact .plain hq hb (by omega)

theorem isString_quote (text : List Char) :
    IsString (JsonString.quote text) (Utf16.encode text) := by
  refine .mk ?_
  induction text with
  | nil => exact .nil
  | cons c text ih =>
    rw [List.flatMap_cons, Utf16.encode, List.flatMap_cons]
    exact .cons (isPiece_quoteChar c) ih

/-! ### Objects and arrays -/

theorem Padded.of (h : Part text a) : Padded Part text a := by
  have hs : Space [] := by simp [Space]
  simpa using Padded.mk hs h hs

/-- The object with one member. -/
def single (name : String) (v : Json) : Json :=
  .object [(Utf16.encode name.toList, v)]

theorem isValue_member (name : String) {value : String} (h : IsText value.toList v) :
    IsValue (Dialect.Mongo.member name value).toList (single name v) := by
  have hm : IsMember IsValue (JsonString.quote name.toList ++ ':' :: value.toList)
      (Utf16.encode name.toList, v) := .mk (.of (isString_quote _)) h
  have he : (Dialect.Mongo.member name value).toList =
      '\x7b' :: ((JsonString.quote name.toList ++ ':' :: value.toList) ++ ['\x7d']) := by
    simp [Dialect.Mongo.member]
  rw [he]
  exact .object (.parts (.last hm))

theorem joined_intercalate {separator : Char} {f : β → List Char} {g : β → α} {b : β} {bs : List β}
    (h : ∀ d ∈ b :: bs, Part (f d) (g d)) :
    Joined separator Part ([separator].intercalate ((b :: bs).map f)) ((b :: bs).map g) := by
  induction bs generalizing b with
  | nil => simpa [List.intercalate] using Joined.last (h b (by simp))
  | cons d bs ih =>
    have hrest := @ih d fun e he => h e (List.mem_cons_of_mem b he)
    simpa [List.intercalate] using Joined.cons (h b (by simp)) hrest

theorem bracketed_intercalate {opening closing : Char} {f : β → List Char} {g : β → α} {bs : List β}
    (h : ∀ b ∈ bs, Part (f b) (g b)) :
    Bracketed Part opening closing (opening :: ([','].intercalate (bs.map f) ++ [closing]))
      (bs.map g) := by
  cases bs with
  | nil => exact .empty (by simp [Space, List.intercalate])
  | cons b bs => exact .parts (joined_intercalate h)

theorem isValue_joined (name : String) {f : β → String} {g : β → Json} {bs : List β}
    (h : ∀ b ∈ bs, IsValue (f b).toList (g b)) :
    IsValue (Dialect.Mongo.joined name (bs.map f)).toList (single name (.array (bs.map g))) := by
  refine isValue_member name (.of (.array ?_))
  rw [Dialect.Mongo.toList_array, String.toList_intercalate, List.map_map]
  exact bracketed_intercalate fun b hb => .of (h b hb)

end Json

/-! ### Conditions -/

open Json (IsText IsValue)

/-- What has to be JSON for a value: the value itself, or the array of the values in a list. -/
def Relation.operand (r : Relation) (value : String) : List Char :=
  if r.takesList then '[' :: (value.toList ++ [']']) else value.toList

/-- The document that asks for a relation between a key and what its value stands for. -/
def Relation.document (r : Relation) (key : String) (v : Json) : Json :=
  match r with
  | .equal => .single key v
  | .unequal => .single key (.single "$ne" v)
  | .greater => .single key (.single "$gt" v)
  | .greaterOrEqual => .single key (.single "$gte" v)
  | .less => .single key (.single "$lt" v)
  | .lessOrEqual => .single key (.single "$lte" v)
  | .oneOf => .single key (.single "$in" v)
  | .noneOf => .single key (.single "$nin" v)

/-- The document of a condition, given those of its comparisons. -/
def Condition.document (leaf : Comparison → Json) : Condition → Json
  | .comparison x => leaf x
  | .all children => .single "$and" (.array (children.map (document leaf)))
  | .any children => .single "$or" (.array (children.map (document leaf)))

theorem Relation.isValue_compare (r : Relation) (key : String) {value : String} {v : Json}
    (h : IsText (r.operand value) v) :
    IsValue (Dialect.Mongo.compare r key value).toList (r.document key v) := by
  have hnested (sign : String) {value : String} (h : IsText value.toList v) :
      IsValue (Dialect.Mongo.member key (Dialect.Mongo.member sign value)).toList
        (.single key (.single sign v)) :=
    Json.isValue_member key (.of (Json.isValue_member sign h))
  have hlist (h : IsText ('[' :: (value.toList ++ [']'])) v) :
      IsText (Dialect.Mongo.array value).toList v := by
    rwa [Dialect.Mongo.toList_array]
  cases r with
  | equal => exact Json.isValue_member key h
  | unequal => exact hnested "$ne" h
  | greater => exact hnested "$gt" h
  | greaterOrEqual => exact hnested "$gte" h
  | less => exact hnested "$lt" h
  | lessOrEqual => exact hnested "$lte" h
  | oneOf => exact hnested "$in" (hlist h)
  | noneOf => exact hnested "$nin" (hlist h)

theorem Dialect.isValue_write_mongo {leaf : Comparison → String} {value : Comparison → Json}
    {c : Condition} (h : ∀ x ∈ c.comparisons, IsValue (leaf x).toList (value x)) :
    IsValue (mongo.write leaf c).toList (c.document value) := by
  induction c with
  | comparison x =>
    rw [write, Condition.document]
    exact h x (by simp [Condition.comparisons])
  | all children ih =>
    rw [write, Condition.document]
    exact Json.isValue_joined "$and" fun d hd =>
      ih d hd fun x hx => h x (Condition.mem_comparisons_of_child hd hx)
  | any children ih =>
    rw [write, Condition.document]
    exact Json.isValue_joined "$or" fun d hd =>
      ih d hd fun x hx => h x (Condition.mem_comparisons_of_child hd hx)

theorem Dialect.renderComparison_mongo {x : Comparison} {r : Relation}
    (h : r.pattern = x.operator) :
    mongo.renderComparison x = .ok (Mongo.compare r x.key x.value) := by
  have hop : mongo.operator? x.operator = some (r.operator (Mongo.compare r)) := by
    show Operator.find? (Relation.operators Mongo.compare) x.operator = _
    rw [Relation.find?_operators, ← h, Relation.find?_pattern]
    rfl
  rw [renderComparison, hop]
  rfl

/-- A condition whose values are JSON is written as JSON, for the document of the condition and no
other value. The names of the members are the keys, as different texts have different code units. -/
theorem render_mongo_isText (c : Condition) (relation : Comparison → Relation)
    (operand : Comparison → Json)
    (hr : ∀ x ∈ c.comparisons, (relation x).pattern = x.operator)
    (hv : ∀ x ∈ c.comparisons, IsText ((relation x).operand x.value) (operand x)) :
    (∃ s, Dialect.mongo.render c = .ok s ∧ ∀ v, IsText s.toList v ↔
      v = c.document fun x => (relation x).document x.key (operand x)) ∧
    Function.Injective fun key : String => Utf16.encode key.toList := by
  have hrender := Dialect.render_of_forall fun x hx => Dialect.renderComparison_mongo (hr x hx)
  have hvalue := Dialect.isValue_write_mongo fun x hx =>
    (relation x).isValue_compare x.key (hv x hx)
  have htext := Json.Padded.of hvalue
  refine ⟨⟨_, hrender, fun v => ⟨fun h => h.unique htext, ?_⟩⟩, fun s t h => ?_⟩
  · rintro rfl
    exact htext
  · exact String.toList_injective (Utf16.encode_injective h)

/-- A key with a quote, control characters and a character of two code units, an empty disjunction,
and values with white space in them. -/
theorem render_mongo_isText_nested :
    ∃ s, Dialect.mongo.render (.all [.comparison ⟨"a\"\n\x01😀", "==", " 1 "⟩, .any [],
        .comparison ⟨"b", "=in=", "2, null"⟩]) = .ok s ∧
      s = "\x7b\"$and\":[\x7b\"a\\\"\\n\\u0001😀\": 1 \x7d,\x7b\"$or\":[]\x7d," ++
        "\x7b\"b\":\x7b\"$in\":[2, null]\x7d\x7d]\x7d" ∧
      ∀ v, IsText s.toList v ↔ v = .single "$and" (.array [
        .object [([0x61, 0x22, 0x0a, 0x01, 0xd83d, 0xde00], .number ['1'])],
        .single "$or" (.array []),
        .single "b" (.single "$in" (.array [.number ['2'], .null]))]) := by
  have hdigit (c : Char) (h : c.isDigit = true) (hz : c ≠ '0') : IsValue [c] (.number [c]) :=
    .number (@Json.IsNumber.mk [] [c] [] [] (.inl rfl)
      (.inr ⟨⟨by simp, by simpa using h⟩, by simpa using hz⟩) (.inl rfl) (.inl rfl))
  have hspace : Json.Space [' '] := by simp [Json.Space, Json.isSpace]
  have hnil : Json.Space [] := by simp [Json.Space]
  have hone : IsText (Relation.equal.operand " 1 ") (.number ['1']) :=
    .mk hspace (hdigit '1' rfl (by decide)) hspace
  have htwo : IsText (Relation.oneOf.operand "2, null") (.array [.number ['2'], .null]) :=
    have hnumber : IsText ['2'] (.number ['2']) := .of (hdigit '2' rfl (by decide))
    have hnull : IsText [' ', 'n', 'u', 'l', 'l'] .null := .mk hspace IsValue.null hnil
    .of (.array (.parts (.cons hnumber (.last hnull))))
  obtain ⟨⟨s, hs, htext⟩, -⟩ := render_mongo_isText (.all [.comparison ⟨"a\"\n\x01😀", "==", " 1 "⟩,
    .any [], .comparison ⟨"b", "=in=", "2, null"⟩])
    (fun x => if x.operator = "==" then .equal else .oneOf)
    (fun x => if x.operator = "==" then .number ['1'] else .array [.number ['2'], .null])
    (by simp [Condition.comparisons, Condition.comparisonsOf, Relation.pattern])
    (by simpa [Condition.comparisons, Condition.comparisonsOf] using ⟨hone, htwo⟩)
  refine ⟨s, hs, ?_, fun v => (htext v).trans ?_⟩
  · refine Except.ok.inj (hs.symm.trans ?_)
    cbv
  · simp [Condition.document, Relation.document, Json.single, Utf16.encode, Utf16.units]

end FilterQuery
