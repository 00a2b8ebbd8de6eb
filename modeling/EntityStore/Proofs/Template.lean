import EntityStore.Statement
import Mathlib.Data.List.Basic

/-!
# Marks and values

The text of a template with a question mark for every value and the text with the values written in
are one rendering with two ways to write a value. Where the fixed text has neither question marks nor
quotes, putting literals for the marks of the first text gives the second.
-/

namespace EntityStore

/-! ## Plain text -/

namespace Text

/-- Text without a question mark and without a single quote. -/
def Plain (s : String) : Prop := ∀ c ∈ s.toList, c ≠ '?' ∧ c ≠ '\''

instance (s : String) : Decidable (Plain s) :=
  decidable_of_iff (s.toList.all fun c => c != '?' && c != '\'') (by simp [Plain])

@[simp] theorem plain_append (s t : String) : Plain (s ++ t) ↔ Plain s ∧ Plain t := by
  rw [Plain, String.toList_append, List.forall_mem_append]
  rfl

theorem plain_intercalate {sep : String} (hsep : Plain sep) {ss : List String}
    (h : ∀ s ∈ ss, Plain s) : Plain (sep.intercalate ss) := by
  induction ss with
  | nil => simp [Plain]
  | cons s rest ih =>
    have hs := h s List.mem_cons_self
    have ih' := ih fun t ht => h t (List.mem_cons_of_mem _ ht)
    cases rest with
    | nil => simpa using hs
    | cons t rest =>
      rw [String.intercalate_cons_cons, plain_append, plain_append]
      exact ⟨⟨hs, hsep⟩, ih'⟩

theorem plain_repr (n : Nat) : Plain n.repr := by
  intro c hc
  rw [Nat.toList_repr] at hc
  have hd := Nat.isDigit_of_mem_toDigits (by omega) (by omega) hc
  constructor <;> rintro rfl <;> simp at hd

theorem plain_toString (n : Int) : Plain (toString n) := by
  rw [Int.toString_eq_repr, Int.repr_eq_if]
  split
  · exact plain_repr _
  · rw [plain_append]
    exact ⟨by decide, plain_repr _⟩

end Text

/-! ## Renderings -/

def Piece.rendered (mark : Value → String) : Piece → String
  | fixed s => s
  | bound v => mark v

namespace Template

def rendered (mark : Value → String) (t : Template) : String :=
  String.join (t.map (Piece.rendered mark))

theorem sql_eq_rendered (t : Template) : t.sql = t.rendered fun _ => "?" := by
  rw [sql, rendered]
  congr 2

theorem inlined_eq_rendered (t : Template) : t.inlined = t.rendered Value.literal := by
  rw [inlined, rendered]
  congr 2

@[simp] theorem rendered_nil (mark : Value → String) : rendered mark [] = "" := by
  simp [rendered]

@[simp] theorem rendered_cons (mark : Value → String) (p : Piece) (t : Template) :
    rendered mark (p :: t) = p.rendered mark ++ t.rendered mark := by
  simp [rendered]

@[simp] theorem rendered_append (mark : Value → String) (t u : Template) :
    rendered mark (t ++ u) = t.rendered mark ++ u.rendered mark := by
  simp [rendered]

theorem rendered_separated (mark : Value → String) (sep : String) (ts : List Template) :
    (separated sep ts).rendered mark = sep.intercalate (ts.map (rendered mark)) := by
  rw [separated]
  induction ts with
  | nil => simp
  | cons t rest ih =>
    cases rest with
    | nil => simp
    | cons u rest =>
      rw [List.intercalate_cons_cons, rendered_append, rendered_append, ih]
      simp [Piece.rendered, String.intercalate_cons_cons]

theorem rendered_boundList (mark : Value → String) (values : List Value) :
    (boundList values).rendered mark = ",".intercalate (values.map mark) := by
  rw [boundList, rendered_separated, List.map_map]
  simp [Function.comp_def, Piece.rendered]

@[simp] theorem sql_nil : sql [] = "" := by
  simp [sql_eq_rendered]

@[simp] theorem sql_fixed (s : String) (t : Template) : sql (.fixed s :: t) = s ++ sql t := by
  simp [sql_eq_rendered, Piece.rendered]

@[simp] theorem sql_bound (v : Value) (t : Template) : sql (.bound v :: t) = "?" ++ sql t := by
  simp [sql_eq_rendered, Piece.rendered]

@[simp] theorem sql_append (t u : Template) : sql (t ++ u) = sql t ++ sql u := by
  simp [sql_eq_rendered]

theorem sql_separated (sep : String) (ts : List Template) :
    (separated sep ts).sql = sep.intercalate (ts.map sql) := by
  rw [sql_eq_rendered, rendered_separated]
  congr 1

/-! ## Parameters -/

@[simp] theorem params_nil : params [] = [] := rfl

@[simp] theorem params_fixed (s : String) (t : Template) : params (.fixed s :: t) = params t := rfl

@[simp] theorem params_bound (v : Value) (t : Template) :
    params (.bound v :: t) = v :: params t := rfl

@[simp] theorem params_append (t u : Template) : params (t ++ u) = params t ++ params u :=
  List.filterMap_append

theorem params_separated (sep : String) (ts : List Template) :
    (separated sep ts).params = ts.flatMap params := by
  rw [separated]
  induction ts with
  | nil => simp
  | cons t rest ih =>
    cases rest with
    | nil => simp
    | cons u rest =>
      rw [List.intercalate_cons_cons, params_append, params_append, ih, List.flatMap_cons]
      simp

theorem params_boundList (values : List Value) : (boundList values).params = values := by
  rw [boundList, params_separated, List.flatMap_map]
  simp

/-! ## Plain templates -/

def Plain (t : Template) : Prop := ∀ s, Piece.fixed s ∈ t → Text.Plain s

@[simp] theorem plain_nil : Plain [] := by simp [Plain]

@[simp] theorem plain_fixed (s : String) (t : Template) :
    Plain (.fixed s :: t) ↔ Text.Plain s ∧ Plain t := by
  simp [Plain, or_imp, forall_and]

@[simp] theorem plain_bound (v : Value) (t : Template) : Plain (.bound v :: t) ↔ Plain t := by
  simp [Plain]

@[simp] theorem plain_append (t u : Template) : Plain (t ++ u) ↔ Plain t ∧ Plain u := by
  simp [Plain, or_imp, forall_and]

theorem plain_separated {sep : String} (hsep : Text.Plain sep) {ts : List Template}
    (h : ∀ t ∈ ts, Plain t) : Plain (separated sep ts) := by
  rw [separated]
  induction ts with
  | nil => simp
  | cons t rest ih =>
    have ht := h t List.mem_cons_self
    have ih' := ih fun u hu => h u (List.mem_cons_of_mem _ hu)
    cases rest with
    | nil => simpa using ht
    | cons u rest =>
      rw [List.intercalate_cons_cons, plain_append, plain_append]
      exact ⟨⟨ht, by simpa using hsep⟩, ih'⟩

theorem plain_boundList (values : List Value) : Plain (boundList values) := by
  apply plain_separated (by decide)
  intro t ht
  obtain ⟨v, -, rfl⟩ := List.mem_map.mp ht
  simp

/-! ## Reading the marks -/

@[simp] theorem formatChars_nil (quoted : Bool) (values : List Value) :
    formatChars quoted [] values = [] := by
  rw [formatChars.eq_def]

theorem formatChars_plain {cs : List Char} (h : ∀ c ∈ cs, c ≠ '?' ∧ c ≠ '\'') (rest : List Char)
    (values : List Value) :
    formatChars false (cs ++ rest) values = cs ++ formatChars false rest values := by
  induction cs with
  | nil => rfl
  | cons c cs ih =>
    obtain ⟨hmark, hquote⟩ := h c List.mem_cons_self
    rw [List.cons_append, formatChars.eq_def]
    simp only [hmark, hquote, if_false, false_and, List.cons_append]
    rw [ih fun d hd => h d (List.mem_cons_of_mem _ hd)]

theorem formatChars_mark (rest : List Char) (v : Value) (values : List Value) :
    formatChars false ('?' :: rest) (v :: values) =
      v.literalChars ++ formatChars false rest values := by
  simp [formatChars]

/-- The scanner outside quotes takes one value for each mark of a plain template, and is outside
quotes again behind it. -/
theorem formatChars_sql {t : Template} (h : t.Plain) (rest : List Char) (later : List Value) :
    formatChars false (t.sql.toList ++ rest) (t.params ++ later) =
      t.inlined.toList ++ formatChars false rest later := by
  rw [sql_eq_rendered, inlined_eq_rendered]
  induction t with
  | nil => simp
  | cons p t ih =>
    cases p with
    | fixed s =>
      obtain ⟨hs, ht⟩ := (plain_fixed s t).mp h
      simp only [rendered_cons, Piece.rendered, String.toList_append, List.append_assoc,
        params_fixed]
      rw [formatChars_plain hs, ih ht]
    | bound v =>
      have ht := (plain_bound v t).mp h
      simp only [rendered_cons, Piece.rendered, String.toList_append, List.append_assoc,
        params_bound, List.cons_append]
      rw [show "?".toList = ['?'] from rfl, List.cons_append, List.nil_append, formatChars_mark,
        ih ht]
      simp [Value.literal]

theorem formatted_statement {t : Template} (h : t.Plain) : t.statement.formatted = t.inlined := by
  have scanned := formatChars_sql h [] []
  rw [List.append_nil, List.append_nil, formatChars_nil, List.append_nil] at scanned
  rw [Statement.formatted, Statement.format, statement, scanned, String.ofList_toList]

theorem count_marks {t : Template} (h : t.Plain) : t.sql.toList.count '?' = t.params.length := by
  rw [sql_eq_rendered]
  induction t with
  | nil => simp
  | cons p t ih =>
    cases p with
    | fixed s =>
      obtain ⟨hs, ht⟩ := (plain_fixed s t).mp h
      have none : s.toList.count '?' = 0 := List.count_eq_zero.mpr fun hm => (hs _ hm).1 rfl
      simp [Piece.rendered, none, ih ht]
    | bound v =>
      have ht := (plain_bound v t).mp h
      simp [Piece.rendered, ih ht, Nat.add_comm]

/-! ## What a template reads as -/

/-- The template reads as `text` however values are written, and binds `values`. Its fixed text is
plain where `names` holds. -/
structure Reads (names : Prop) (t : Template) (text : (Value → String) → String)
    (values : List Value) : Prop where
  rendered : ∀ mark, t.rendered mark = text mark
  params : t.params = values
  plain : names → t.Plain

variable {names : Prop} {t u : Template} {f g : (Value → String) → String} {vs ws : List Value}

theorem reads_nil : Reads names [] (fun _ => "") [] := ⟨by simp, rfl, by simp⟩

theorem reads_fixed {s : String} (h : names → Text.Plain s) :
    Reads names [.fixed s] (fun _ => s) [] :=
  ⟨by simp [Piece.rendered], rfl, by simpa using h⟩

theorem reads_bound (v : Value) : Reads names [.bound v] (fun mark => mark v) [v] :=
  ⟨by simp [Piece.rendered], rfl, by simp⟩

theorem Reads.append (ht : Reads names t f vs) (hu : Reads names u g ws) :
    Reads names (t ++ u) (fun mark => f mark ++ g mark) (vs ++ ws) where
  rendered mark := by rw [rendered_append, ht.rendered, hu.rendered]
  params := by rw [params_append, ht.params, hu.params]
  plain h := (plain_append t u).mpr ⟨ht.plain h, hu.plain h⟩

theorem reads_boundList (values : List Value) :
    Reads names (boundList values) (fun mark => ",".intercalate (values.map mark)) values :=
  ⟨fun mark => rendered_boundList mark values, params_boundList values, fun _ =>
    plain_boundList values⟩

theorem Reads.congr (h : Reads names t f vs) (same : ∀ mark, f mark = g mark) (eq : vs = ws) :
    Reads names t g ws :=
  ⟨fun mark => (h.rendered mark).trans (same mark), h.params.trans eq, h.plain⟩

theorem Reads.weaken {stronger : Prop} (h : Reads names t f vs) (imp : stronger → names) :
    Reads stronger t f vs :=
  ⟨h.rendered, h.params, fun hs => h.plain (imp hs)⟩

theorem reads_separated {α : Type} {sep : String} (hsep : Text.Plain sep) {ts : List Template}
    {xs : List α} {text : α → (Value → String) → String} {values : α → List Value}
    (h : List.Forall₂ (fun t x => Reads names t (text x) (values x)) ts xs) :
    Reads names (separated sep ts) (fun mark => sep.intercalate (xs.map fun x => text x mark))
      (xs.flatMap values) where
  rendered mark := by
    rw [rendered_separated]
    congr 1
    induction h with
    | nil => rfl
    | cons ht _ ih => rw [List.map_cons, List.map_cons, ht.rendered, ih]
  params := by
    rw [params_separated]
    induction h with
    | nil => rfl
    | cons ht _ ih => rw [List.flatMap_cons, List.flatMap_cons, ht.params, ih]
  plain hn := by
    apply plain_separated hsep
    induction h with
    | nil => simp
    | cons ht _ ih => exact List.forall_mem_cons.mpr ⟨ht.plain hn, ih⟩

end Template

end EntityStore
