import FilterQuery.Proofs.Escaping
import FilterQuery.Proofs.Rendering

/-!
# Groups of SQL conditions stay closed

What the MySQL dialect writes for a query without escaped parentheses has balanced parentheses, and
the text of each conjunction or disjunction in it stands between a pair of them that belong together
(`process_mysql_balanced`). So neither a value nor a group of a query can close a group around it.

Keys have no parentheses (`Grammar.IsKey`) and values are balanced, before and after the parentheses
of a list are taken away (`Grammar.IsValue`). Resolving escapes could bring new parentheses in, but
only where stand-ins of parentheses are, and the query has none (`Escape.balanced_unescape`).
-/

namespace FilterQuery

open Nesting

namespace Condition

/-- A condition is another one or stands somewhere inside it. -/
inductive Within (n : Condition) : Condition → Prop
  | refl : Within n n
  | child {c d : Condition} (hd : d ∈ c.children) (h : Within n d) : Within n c

variable {c d n : Condition} {x : Comparison}

theorem Within.mem_comparisons (h : n.Within c) (hx : x ∈ n.comparisons) : x ∈ c.comparisons := by
  induction h with
  | refl => exact hx
  | child hd _ ih => exact mem_comparisons_of_child hd ih

theorem children_induction {motive : Condition → Prop}
    (h : ∀ c, (∀ d ∈ c.children, motive d) → motive c) (c : Condition) : motive c := by
  induction c with
  | comparison x => exact h _ (by simp [children])
  | all cs ih => exact h _ ih
  | any cs ih => exact h _ ih

end Condition

/-! ### Balanced texts put together -/

namespace Nesting

variable {separator : List Char} {texts : List (List Char)} {text : List Char} {depth : Nat}

theorem balanced_intercalate (hs : Balanced separator) (h : ∀ t ∈ texts, Balanced t) :
    Balanced (separator.intercalate texts) := by
  induction texts with
  | nil => exact balanced_of_not_isParen (by simp [List.intercalate])
  | cons t texts ih =>
    have ht : Balanced t := h t (by simp)
    have hrest := ih fun u hu => h u (by simp [hu])
    cases texts with
    | nil => simpa [List.intercalate] using ht
    | cons u texts =>
      have he : separator.intercalate (t :: u :: texts) =
          t ++ (separator ++ separator.intercalate (u :: texts)) := by simp [List.intercalate]
      rw [he]
      exact ht.append (hs.append hrest)

theorem infix_intercalate {t : List Char} (h : t ∈ texts) : t <:+: separator.intercalate texts := by
  have hmem : t ∈ texts.intersperse separator := by
    induction texts with
    | nil => simp at h
    | cons u texts ih =>
      rcases List.mem_cons.1 h with rfl | h
      · cases texts <;> simp
      · cases texts with
        | nil => simp at h
        | cons v texts => simp [ih h]
  exact List.infix_of_mem_flatten hmem

theorem depthThrough_map {f : Char → Char}
    (h : ∀ c ∈ text, (f c = '(' ↔ c = '(') ∧ (f c = ')' ↔ c = ')')) :
    depthThrough depth (text.map f) = depthThrough depth text := by
  induction text generalizing depth with
  | nil => rfl
  | cons c text ih =>
    obtain ⟨ho, hc⟩ := h c (by simp)
    have ih (d : Nat) : depthThrough d (text.map f) = depthThrough d text :=
      ih fun e he => h e (by simp [he])
    rw [List.map_cons, depthThrough, depthThrough, depthAfter, depthAfter]
    simp only [ho, hc, ih]

end Nesting

/-- Resolving escapes keeps a text balanced unless parentheses are escaped in it. -/
theorem Escape.balanced_unescape {text : List Char} (ho : '\ue000' ∉ text) (hc : '\ue001' ∉ text)
    (h : Balanced text) : Balanced (unescape text) := by
  rw [balanced_iff] at h ⊢
  rw [unescape, depthThrough_map, h]
  intro c hmem
  have hco : c ≠ '\ue000' := by rintro rfl; exact ho hmem
  have hcc : c ≠ '\ue001' := by rintro rfl; exact hc hmem
  unfold literal?
  split <;> simp_all

/-! ### Values of lists -/

namespace Grammar

theorem balanced_argument (o : Operator) {value : List Char} (h : Balanced value) :
    Balanced (argument o value) := by
  rw [argument]
  split
  · next hs => exact hs.2.2.2
  · exact h

end Grammar

/-! ### What is written -/

namespace Dialect

variable {leaf : Comparison → String} {c n : Condition}

theorem MySql.toList_parenthesized (text : String) :
    (parenthesized text).toList = '(' :: (text.toList ++ [')']) := by
  simp [parenthesized]

theorem MySql.balanced_compare (r : Relation) {key value : String} (hk : Balanced key.toList)
    (hv : Balanced value.toList) : Balanced (compare r key value).toList := by
  have hjoin (sign : String) (hs : ∀ c ∈ sign.toList, isParen c = false) {value : String}
      (hv : Balanced value.toList) : Balanced (key ++ sign ++ value).toList := by
    rw [String.toList_append, String.toList_append, List.append_assoc]
    exact hk.append ((balanced_of_not_isParen hs).append hv)
  have hlist : Balanced (parenthesized value).toList := by
    rw [toList_parenthesized]
    exact hv.enclose
  cases r with
  | equal => exact hjoin " = " (by simp [isParen]) hv
  | unequal => exact hjoin " != " (by simp [isParen]) hv
  | greater => exact hjoin " > " (by simp [isParen]) hv
  | greaterOrEqual => exact hjoin " >= " (by simp [isParen]) hv
  | less => exact hjoin " < " (by simp [isParen]) hv
  | lessOrEqual => exact hjoin " <= " (by simp [isParen]) hv
  | oneOf => exact hjoin " IN " (by simp [isParen]) hlist
  | noneOf => exact hjoin " NOT IN " (by simp [isParen]) hlist

/-- Balanced texts that are joined in parentheses stand between a pair that belongs together. -/
theorem MySql.exists_inner {separator : String} {children : List Condition}
    (hs : Balanced separator.toList) (h : ∀ c ∈ children, Balanced (mysql.write leaf c).toList) :
    ∃ inner, (parenthesized (String.intercalate separator
        (children.map (mysql.write leaf)))).toList = '(' :: (inner ++ [')']) ∧
      Balanced inner ∧ ∀ c ∈ children, (mysql.write leaf c).toList <:+: inner := by
  refine ⟨_, toList_parenthesized _, ?_, fun c hc => ?_⟩
  · rw [String.toList_intercalate]
    refine balanced_intercalate hs fun t ht => ?_
    obtain ⟨u, hu, rfl⟩ := List.mem_map.1 ht
    obtain ⟨c, hc, rfl⟩ := List.mem_map.1 hu
    exact h c hc
  · rw [String.toList_intercalate]
    exact infix_intercalate (List.mem_map.2 ⟨_, List.mem_map.2 ⟨c, hc, rfl⟩, rfl⟩)

theorem exists_inner_write (hc : c.isAll = true ∨ c.isAny = true)
    (h : ∀ d ∈ c.children, Balanced (mysql.write leaf d).toList) :
    ∃ inner, (mysql.write leaf c).toList = '(' :: (inner ++ [')']) ∧ Balanced inner ∧
      ∀ d ∈ c.children, (mysql.write leaf d).toList <:+: inner := by
  cases c with
  | comparison x => simp [Condition.isAll, Condition.isAny] at hc
  | all children =>
    rw [write]
    exact MySql.exists_inner (by decide) h
  | any children =>
    rw [write]
    exact MySql.exists_inner (by decide) h

theorem balanced_write (h : ∀ x ∈ c.comparisons, Balanced (leaf x).toList) :
    Balanced (mysql.write leaf c).toList := by
  induction c using Condition.children_induction with
  | h c ih =>
    have hchild : ∀ d ∈ c.children, Balanced (mysql.write leaf d).toList := fun d hd =>
      ih d hd fun x hx => h x (Condition.mem_comparisons_of_child hd hx)
    have hgroup (hc : c.isAll = true ∨ c.isAny = true) : Balanced (mysql.write leaf c).toList := by
      obtain ⟨inner, he, hb, -⟩ := exists_inner_write hc hchild
      rw [he]
      exact hb.enclose
    cases c with
    | comparison x =>
      rw [write]
      exact h x (by simp [Condition.comparisons])
    | all children => exact hgroup (.inl rfl)
    | any children => exact hgroup (.inr rfl)

theorem infix_write (hw : n.Within c) (h : ∀ x ∈ c.comparisons, Balanced (leaf x).toList) :
    (mysql.write leaf n).toList <:+: (mysql.write leaf c).toList := by
  induction hw with
  | refl => exact List.infix_rfl
  | @child c d hd _ ih =>
    have hc : c.isAll = true ∨ c.isAny = true := by
      cases c with
      | comparison x => simp [Condition.children] at hd
      | all children => exact .inl rfl
      | any children => exact .inr rfl
    obtain ⟨inner, he, -, hi⟩ := exists_inner_write hc fun e he =>
      balanced_write fun x hx => h x (Condition.mem_comparisons_of_child he hx)
    have hinner : inner <:+: '(' :: (inner ++ [')']) := ⟨['('], [')'], rfl⟩
    rw [he]
    exact (ih fun x hx => h x (Condition.mem_comparisons_of_child hd hx)).trans
      ((hi d hd).trans hinner)

end Dialect

/-! ### Queries -/

theorem balanced_leaf_mysql {depth : Nat} {policy : KeyPolicy} {query : String} {c : Condition}
    (ho : '\ue000' ∉ Escape.encode query.toList) (hc : '\ue001' ∉ Escape.encode query.toList)
    (h : { Parser.mysql with maxDepth := depth }.parse query policy = .ok c) :
    ∀ x ∈ c.comparisons, Balanced (Dialect.mysql.leaf x).toList := by
  intro x hx
  obtain ⟨m, middle, rfl, -, hi, hk, hop, hv⟩ := Parser.exists_comparison_of_parse h hx
  have hmem : ∀ d ∈ Grammar.argument m.operator m.value, d ∈ Escape.encode query.toList := by
    intro d hd
    refine hi.mem ?_
    simp [(Grammar.infix_argument m.operator m.value).mem hd]
  have hreg : Operator.find? (Relation.operators Dialect.MySql.compare) m.operator.pattern =
    some m.operator := hop.registered
  have hleaf : Dialect.mysql.leaf ({ Parser.mysql with maxDepth := depth }.comparisonOf m) =
      m.operator.format (String.ofList m.key)
        (String.ofList (Escape.unescape (Grammar.argument m.operator m.value))) := by
    have ho : Dialect.mysql.operator? m.operator.pattern = some m.operator := hreg
    rw [Dialect.leaf, Parser.comparisonOf, ho]
    rfl
  rw [Relation.find?_operators, Option.map_eq_some_iff] at hreg
  obtain ⟨r, -, hr⟩ := hreg
  rw [hleaf, ← hr]
  refine Dialect.MySql.balanced_compare r ?_ ?_
  · rw [String.toList_ofList]
    exact balanced_of_not_isParen hk.isParen
  · rw [String.toList_ofList, hr]
    refine Escape.balanced_unescape (fun h => ho (hmem _ h)) (fun h => hc (hmem _ h)) ?_
    exact Grammar.balanced_argument _ hv.orSeparator.balanced

/-- A query without escaped parentheses is written with balanced parentheses. In what is written,
the text of each conjunction or disjunction starts with a parenthesis that is closed by the last
character of this text. -/
theorem process_mysql_balanced (depth : Nat) (policy : KeyPolicy) (query : String)
    (hopen : ¬['\\', '('] <:+: query.toList) (hclose : ¬['\\', ')'] <:+: query.toList)
    (hopen' : '\ue000' ∉ query.toList) (hclose' : '\ue001' ∉ query.toList) (s : String)
    (h : { Parser.mysql with maxDepth := depth }.process query policy = .ok s) :
    Balanced s.toList ∧
    ∃ c, { Parser.mysql with maxDepth := depth }.parse query policy = .ok c ∧
      Dialect.mysql.render c = .ok s ∧
      ∀ n, n.Within c → ∃ t, Dialect.mysql.render n = .ok t ∧ t.toList <:+: s.toList ∧
        (n.isAll = true ∨ n.isAny = true →
          ∃ inner, t.toList = '(' :: (inner ++ [')']) ∧ Balanced inner) := by
  have ho := Escape.not_mem_encode (l := '(') rfl hopen hopen'
  have hc := Escape.not_mem_encode (l := ')') rfl hclose hclose'
  obtain ⟨c, hparse, hrender⟩ := bind_eq_ok_iff.1 h
  have hleaf := balanced_leaf_mysql ho hc hparse
  have hwrite (n : Condition) (hn : n.Within c) :
      Dialect.mysql.render n = .ok (Dialect.mysql.write Dialect.mysql.leaf n) :=
    Dialect.render_of_forall fun x hx =>
      Parser.renderComparison_of_parse hparse x (hn.mem_comparisons hx)
  obtain rfl : s = Dialect.mysql.write Dialect.mysql.leaf c :=
    Except.ok.inj (hrender.symm.trans (hwrite c .refl))
  refine ⟨Dialect.balanced_write hleaf, c, hparse, hrender, fun n hn => ?_⟩
  refine ⟨_, hwrite n hn, Dialect.infix_write hn hleaf, fun hgroup => ?_⟩
  obtain ⟨inner, he, hb, -⟩ := Dialect.exists_inner_write hgroup fun d hd =>
    Dialect.balanced_write fun x hx =>
      hleaf x (hn.mem_comparisons (Condition.mem_comparisons_of_child hd hx))
  exact ⟨inner, he, hb⟩

/-- Parentheses in a value, around a list and around a group, and an escaped comma. -/
theorem process_mysql_balanced_nested :
    ({ Parser.mysql with maxDepth := 1 } : Parser).process "a==(1);(b=in=(x),c==\\,y)"
      .unrestricted = .ok "(a = (1) AND (b IN (x) OR c = ,y))" ∧
    (∃ inner, "(a = (1) AND (b IN (x) OR c = ,y))".toList = '(' :: (inner ++ [')']) ∧
      Balanced inner) ∧
    ∃ inner, "(b IN (x) OR c = ,y)".toList = '(' :: (inner ++ [')']) ∧ Balanced inner := by
  have h : ({ Parser.mysql with maxDepth := 1 } : Parser).process "a==(1);(b=in=(x),c==\\,y)"
      .unrestricted = .ok "(a = (1) AND (b IN (x) OR c = ,y))" := by cbv
  have hparse : ({ Parser.mysql with maxDepth := 1 } : Parser).parse "a==(1);(b=in=(x),c==\\,y)"
      .unrestricted = .ok (.all [.comparison ⟨"a", "==", "(1)"⟩,
        .any [.comparison ⟨"b", "=in=", "x"⟩, .comparison ⟨"c", "==", ",y"⟩]]) := by cbv
  have hinner : Dialect.mysql.render (.any [.comparison ⟨"b", "=in=", "x"⟩,
      .comparison ⟨"c", "==", ",y"⟩]) = .ok "(b IN (x) OR c = ,y)" := by cbv
  obtain ⟨-, c, hc, hs, hgroups⟩ := process_mysql_balanced 1 .unrestricted
    "a==(1);(b=in=(x),c==\\,y)" (by simp [List.infix_cons_iff]) (by simp [List.infix_cons_iff])
    (by simp) (by simp) _ h
  obtain rfl := Except.ok.inj (hparse.symm.trans hc)
  refine ⟨h, ?_, ?_⟩
  · obtain ⟨t, ht, -, hg⟩ := hgroups _ .refl
    obtain rfl := Except.ok.inj (hs.symm.trans ht)
    exact hg (.inl rfl)
  · obtain ⟨t, ht, -, hg⟩ := hgroups (.any [.comparison ⟨"b", "=in=", "x"⟩,
      .comparison ⟨"c", "==", ",y"⟩]) (.child (by simp [Condition.children]) .refl)
    obtain rfl := Except.ok.inj (hinner.symm.trans ht)
    exact hg (.inr rfl)

end FilterQuery
