import EntityStore.Proofs.Blame
import EntityStore.Proofs.Integer

/-!
# Pages

A page is a window of all rows of a query. Each kind of store has its own way to say so: rows are
skipped and others taken, or rows are numbered and kept between two numbers, or the first row and the
number of rows are named in a request. All of them come to the same rows, and pages of one size that
follow each other come to the rows without a gap.
-/

namespace EntityStore

/-! ## The rows of a page -/

namespace Page

def rows {α : Type} (p : Page) (all : List α) : List α :=
  (all.drop ((p.number.toInt - 1) * p.size.toInt).toNat).take p.size.toInt.toNat

def upTo (p : Page) : List Page :=
  (List.range p.number.toInt.toNat).map fun before => ⟨Int64.ofNat (before + 1), p.size⟩

/-- A page that there can be: the rows before it can be counted. -/
structure Accepted (p : Page) : Prop where
  number : 1 ≤ p.number.toInt
  size : 1 ≤ p.size.toInt
  before : (p.number.toInt - 1) * p.size.toInt ≤ Int64.maxValue.toInt

end Page

namespace Page

variable {p : Page}

theorem zero_le_before (number : 1 ≤ p.number.toInt) (size : 1 ≤ p.size.toInt) :
    0 ≤ (p.number.toInt - 1) * p.size.toInt :=
  Int.mul_nonneg (by omega) (by omega)

theorem offset?_eq_some (number : 1 ≤ p.number.toInt) {offset : Int64} :
    p.offset? = some offset ↔ offset.toInt = (p.number.toInt - 1) * p.size.toInt := by
  obtain ⟨before, hbefore⟩ : ∃ before, checkedInt64 (p.number.toInt - 1) = some before := by
    have most := p.number.toInt_le
    rw [exists_checkedInt64_iff, Int64.toInt_minValue]
    omega
  unfold offset?
  rw [hbefore, Option.bind_some, checkedInt64_eq_some, toInt_of_checkedInt64 hbefore]

theorem check_eq_ok : p.check = .ok () ↔ p.Accepted := by
  have steps : p.check = .ok () ↔ 1 ≤ p.number.toInt ∧ 1 ≤ p.size.toInt ∧
      ∃ offset, p.offset? = some offset := by
    unfold check
    rw [require_bind_eq_ok, require_bind_eq_ok, require_eq_ok, Option.isSome_iff_exists,
      decide_eq_true_eq, decide_eq_true_eq, Int64.le_iff_toInt_le, Int64.lt_iff_toInt_lt]
    rfl
  rw [steps]
  constructor
  · rintro ⟨number, size, offset, some⟩
    have same := (offset?_eq_some number).mp some
    exact ⟨number, size, same ▸ offset.toInt_le⟩
  · rintro ⟨number, size, before⟩
    have least := zero_le_before number size
    obtain ⟨offset, same, -⟩ := exists_checkedInt64 least before
    exact ⟨number, size, offset, (offset?_eq_some number).mpr same⟩

theorem toInt_offset (accepted : p.Accepted) :
    p.offset.toInt = (p.number.toInt - 1) * p.size.toInt := by
  have least := zero_le_before accepted.number accepted.size
  obtain ⟨offset, same, -⟩ := exists_checkedInt64 least accepted.before
  unfold Page.offset
  rw [(offset?_eq_some accepted.number).mpr same, Option.getD_some, same]

theorem zero_le_offset (accepted : p.Accepted) : 0 ≤ p.offset := by
  rw [Int64.le_iff_toInt_le, toInt_offset accepted]
  exact zero_le_before accepted.number accepted.size

theorem zero_lt_size (accepted : p.Accepted) : 0 < p.size :=
  Int64.lt_iff_toInt_lt.mpr accepted.size

/-! ## Pages that follow each other -/

theorem toInt_ofNat_of_lt {p : Page} {before : Nat} (earlier : before < p.number.toInt.toNat) :
    (Int64.ofNat (before + 1)).toInt = before + 1 := by
  have most := p.number.toInt_le
  rw [Int64.toInt_maxValue] at most
  rw [Int64.toInt_ofNat_of_lt (by omega)]
  rfl

theorem accepted_of_mem_upTo (accepted : p.Accepted) : ∀ page ∈ p.upTo, page.Accepted := by
  intro page mem
  obtain ⟨before, range, rfl⟩ := List.mem_map.mp mem
  have earlier := List.mem_range.mp range
  have size := accepted.size
  have number := toInt_ofNat_of_lt earlier
  refine ⟨by simp only [number]; omega, size, ?_⟩
  have fewer : (before : Int) + 1 - 1 ≤ p.number.toInt - 1 := by omega
  simp only [number]
  exact Int.le_trans (Int.mul_le_mul_of_nonneg_right fewer (by omega)) accepted.before

theorem flatMap_windows {α : Type} (all : List α) (width count : Nat) :
    (List.range count).flatMap (fun i => (all.drop (i * width)).take width) =
      all.take (count * width) := by
  induction count with
  | zero => simp
  | succ count ih =>
    rw [List.range_succ, List.flatMap_append, ih, Nat.succ_mul, List.take_add]
    simp

theorem flatMap_rows_upTo (accepted : p.Accepted) {α : Type} (all : List α) :
    p.upTo.flatMap (·.rows all) = all.take (p.number.toInt * p.size.toInt).toNat := by
  have size := accepted.size
  have number := accepted.number
  have each : ∀ before ∈ List.range p.number.toInt.toNat,
      (Page.mk (Int64.ofNat (before + 1)) p.size).rows all =
        (all.drop (before * p.size.toInt.toNat)).take p.size.toInt.toNat := by
    intro before range
    have start : (((before : Int) + 1 - 1) * p.size.toInt).toNat =
        before * p.size.toInt.toNat := by
      rw [Int.add_sub_cancel, Int.toNat_mul (by omega) (by omega), Int.toNat_natCast]
    unfold rows
    simp only [toInt_ofNat_of_lt (List.mem_range.mp range), start]
  unfold upTo
  rw [List.flatMap_map, List.flatMap_congr each, flatMap_windows,
    Int.toNat_mul (by omega) (by omega)]

end Page

/-! ## Queries without a window -/

def Query.whole (q : Query) : Query := { q with offset := none, limit := none }

theorem Query.paging_page {p : Page} (accepted : p.Accepted) (q : Query) :
    (q.page p).paging = some (p.offset, p.size) :=
  if_pos ⟨Page.zero_le_offset accepted, Page.zero_lt_size accepted⟩

/-! ## Windows of statements -/

namespace Relational

inductive Window where
  /-- The first rows are skipped, and so many of the others are taken. -/
  | limit (skipped taken : Int)
  /-- The rows are numbered from one. Those up to one number are kept, and of these the ones after
  another. -/
  | rowNumbers (upper lower : Int)

def Window.around (body : Template) : Window → Template
  | limit skipped taken =>
    body ++ [.fixed ("LIMIT " ++ toString skipped ++ "," ++ toString taken)]
  | rowNumbers upper lower =>
    [.fixed "SELECT * FROM (SELECT ROWNUM AS RN,table_alias.* FROM ("] ++ body ++
      [.fixed (") table_alias WHERE ROWNUM <= " ++ toString upper ++ ") WHERE RN > " ++
        toString lower)]

def Window.rows {α : Type} (all : List α) : Window → List α
  | limit skipped taken => (all.drop skipped.toNat).take taken.toNat
  | rowNumbers upper lower =>
    let kept := (all.zipIdx 1).filter fun (_, number) => (number : Int) ≤ upper
    (kept.filter fun (_, number) => lower < (number : Int)).map (·.1)

theorem filter_number_le {α : Type} (all : List α) (start upper : Nat) :
    ((all.zipIdx (start + 1)).filter fun x => x.2 ≤ start + upper) =
      (all.take upper).zipIdx (start + 1) := by
  induction all generalizing start upper with
  | nil => simp
  | cons row rest ih =>
    cases upper with
    | zero =>
      rw [List.take_zero, List.zipIdx_nil, List.filter_eq_nil_iff]
      intro x mem
      have later := List.le_snd_of_mem_zipIdx mem
      simp only [decide_eq_true_eq]
      omega
    | succ upper =>
      have next := ih (start + 1) upper
      rw [show start + 1 + upper = start + (upper + 1) by omega] at next
      rw [List.zipIdx_cons, List.filter_cons_of_pos (by simp), next, List.take_succ_cons,
        List.zipIdx_cons]

theorem map_filter_lt_number {α : Type} (all : List α) (start lower : Nat) :
    (((all.zipIdx (start + 1)).filter fun x => start + lower < x.2).map (·.1)) =
      all.drop lower := by
  induction all generalizing start lower with
  | nil => simp
  | cons row rest ih =>
    cases lower with
    | zero =>
      have every : ∀ x ∈ (row :: rest).zipIdx (start + 1), decide (start + 0 < x.2) = true := by
        intro x mem
        have later := List.le_snd_of_mem_zipIdx mem
        simp only [decide_eq_true_eq]
        omega
      rw [List.filter_eq_self.mpr every, List.zipIdx_map_fst, List.drop_zero]
    | succ lower =>
      have next := ih (start + 1) lower
      rw [show start + 1 + lower = start + (lower + 1) by omega] at next
      rw [List.zipIdx_cons, List.filter_cons_of_neg (by simp), next, List.drop_succ_cons]

theorem rows_rowNumbers {α : Type} (all : List α) (lower taken : Nat) :
    (Window.rowNumbers (lower + taken) lower).rows all = (all.drop lower).take taken := by
  have kept := filter_number_le all 0 (lower + taken)
  have later := map_filter_lt_number (all.take (lower + taken)) 0 lower
  rw [Nat.zero_add] at kept later
  unfold Window.rows
  simp only [← Int.natCast_add, Int.ofNat_le, Int.ofNat_lt]
  rw [kept, later, List.drop_take, Nat.add_sub_cancel_left]

def pageWindow (p : Page) : Dialect → Window
  | .mysql => .limit ((p.number.toInt - 1) * p.size.toInt) p.size.toInt
  | .oracle => .rowNumbers (p.number.toInt * p.size.toInt) ((p.number.toInt - 1) * p.size.toInt)

/-- The number of the page's last row can be written, where the dialect needs it. -/
def Fits (p : Page) (dialect : Dialect) : Prop :=
  dialect = .oracle → p.number.toInt * p.size.toInt ≤ Int64.maxValue.toInt

instance (p : Page) (dialect : Dialect) : Decidable (Fits p dialect) :=
  inferInstanceAs (Decidable (dialect = .oracle → _))

variable {p : Page} {dialect : Dialect} {body t : Template}

theorem rows_pageWindow (accepted : p.Accepted) (dialect : Dialect) {α : Type} (all : List α) :
    (pageWindow p dialect).rows all = p.rows all := by
  cases dialect with
  | mysql => rfl
  | oracle =>
    have size := accepted.size
    obtain ⟨lower, hlower⟩ := Int.eq_ofNat_of_zero_le
      (Page.zero_le_before accepted.number accepted.size)
    obtain ⟨taken, htaken⟩ := Int.eq_ofNat_of_zero_le (show 0 ≤ p.size.toInt by omega)
    have upper : p.number.toInt * p.size.toInt = lower + taken := by
      rw [← hlower, ← htaken, Int.sub_mul]
      omega
    unfold pageWindow Page.rows
    simp only
    rw [upper, hlower, rows_rowNumbers, htaken]
    rfl

theorem paginate_sensible (accepted : p.Accepted) : ¬ (p.offset < 0 ∨ p.size ≤ 0) := by
  apply not_or.mpr
  exact ⟨Int64.not_lt.mpr (Page.zero_le_offset accepted),
    Int64.not_le.mpr (Page.zero_lt_size accepted)⟩

theorem toInt_last (accepted : p.Accepted) :
    p.offset.toInt + p.size.toInt = p.number.toInt * p.size.toInt := by
  rw [Page.toInt_offset accepted, Int.sub_mul]
  omega

theorem paginate_of_fits (accepted : p.Accepted) (fits : Fits p dialect) :
    paginate dialect body p.offset p.size = .ok ((pageWindow p dialect).around body) := by
  have offset := Page.toInt_offset accepted
  unfold paginate pageWindow Window.around
  rw [if_neg (paginate_sensible accepted)]
  cases dialect with
  | mysql => simp only [offset]
  | oracle =>
    have least := Page.zero_le_before accepted.number accepted.size
    have last := toInt_last accepted
    have size := accepted.size
    obtain ⟨upper, same, some⟩ := exists_checkedInt64 (by omega) (fits rfl)
    simp only [last, some]
    rw [same, offset]

theorem paginate_of_not_fits (accepted : p.Accepted) (wide : ¬ Fits p dialect) :
    paginate dialect body p.offset p.size = .error (.invalidArgument .query .offsetOverflow) := by
  obtain ⟨rfl, large⟩ := Classical.not_imp.mp wide
  have none : checkedInt64 (p.number.toInt * p.size.toInt) = none := by
    rw [Option.eq_none_iff_forall_ne_some]
    intro upper some
    exact large (exists_checkedInt64_iff.mp ⟨upper, some⟩).2
  unfold paginate
  rw [if_neg (paginate_sensible accepted)]
  simp only [toInt_last accepted, none]

theorem paginate_page (accepted : p.Accepted) (dialect : Dialect) (body : Template) :
    paginate dialect body p.offset p.size =
      if Fits p dialect then .ok ((pageWindow p dialect).around body)
      else .error (.invalidArgument .query .offsetOverflow) := by
  split_ifs with fits
  · exact paginate_of_fits accepted fits
  · exact paginate_of_not_fits accepted fits

theorem select_page (accepted : p.Accepted) (m : Mapping) (dialect : Dialect) (q : Query) :
    select m dialect (q.page p) =
      select m dialect q.whole >>= fun body => paginate dialect body p.offset p.size := by
  have window := Query.paging_page accepted q
  have clause : selectClause m (q.page p) = selectClause m q.whole := rfl
  have whole : q.whole.paging = none := rfl
  have criteria : (q.page p).criteria = q.whole.criteria := rfl
  have groups : (q.page p).groupBys = q.whole.groupBys := rfl
  have order : (q.page p).orderBys = q.whole.orderBys := rfl
  unfold select
  rw [window, clause, whole, criteria, groups, order]
  rw [bind_assoc]
  refine bind_congr fun columns => ?_
  rw [bind_assoc]
  refine bind_congr fun condition => ?_
  rw [bind_assoc]
  refine bind_congr fun groups => ?_
  rw [bind_assoc]
  exact bind_congr fun order => rfl

theorem select_page_blames_iff (accepted : p.Accepted) (m : Mapping) (dialect : Dialect)
    (q : Query) :
    (∃ fault, select m dialect (q.page p) = .error (.invalidArgument .query fault)) ↔
      ¬ Fits p dialect ∧ ∃ body, select m dialect q.whole = .ok body := by
  have spared := SparesQuery.select (q := q.whole) rfl m dialect
  rw [select_page accepted]
  cases whole : select m dialect q.whole with
  | error e =>
    rw [whole] at spared
    exact iff_of_false (fun ⟨fault, blamed⟩ => spared fault blamed) (fun ⟨_, _, same⟩ => nomatch same)
  | ok body =>
    have step : (Except.ok body >>= fun body => paginate dialect body p.offset p.size) =
      paginate dialect body p.offset p.size := rfl
    rw [step, paginate_page accepted]
    split_ifs with fits
    · exact iff_of_false (fun ⟨_, blamed⟩ => nomatch blamed) (fun ⟨wide, _⟩ => wide fits)
    · exact iff_of_true ⟨_, rfl⟩ ⟨fits, body, rfl⟩

end Relational

/-! ## Windows of requests -/

namespace SearchRequest

def rows {α : Type} (request : SearchRequest) (all : List α) : List α :=
  (all.drop request.start.toInt.toNat).take request.size.toInt.toNat

/-- The request, narrowed to a page. Where rows are counted by a field none are brought, and as many
values of the field as there are rows on a page. -/
def narrowed (p : Page) (request : SearchRequest) : SearchRequest :=
  match request.aggregation with
  | none => { request with start := p.offset, size := p.size }
  | some a => { request with aggregation := some { a with size := p.size } }

theorem rows_narrowed {p : Page} (accepted : p.Accepted) {request : SearchRequest}
    (brings : request.aggregation = none) {α : Type} (all : List α) :
    (request.narrowed p).rows all = p.rows all := by
  unfold narrowed rows Page.rows
  simp only [brings]
  rw [Page.toInt_offset accepted]

end SearchRequest

namespace Search

variable {p : Page}

theorem max_offset (accepted : p.Accepted) : max p.offset 0 = p.offset := by
  change (if p.offset ≤ 0 then 0 else p.offset) = p.offset
  split_ifs with none
  · exact Int64.le_antisymm (Page.zero_le_offset accepted) none
  · rfl

theorem sizeOf_size (accepted : p.Accepted) (window : Int64) :
    sizeOf window (some p.size) = p.size := by
  have some : 1 ≤ p.size := Int64.le_iff_toInt_le.mpr accepted.size
  unfold sizeOf
  exact if_pos some

theorem search_page (accepted : p.Accepted) (m : Mapping) (window : Int64) (q : Query)
    (index : String) :
    search m window (q.page p) index = (search m window q.whole index).map (·.narrowed p) := by
  have limit : (q.page p).limit = some p.size := rfl
  have offset : (q.page p).offset = some p.offset := rfl
  have criteria : (q.page p).criteria = q.whole.criteria := rfl
  have groups : (q.page p).groupBys = q.whole.groupBys := rfl
  have fields : (q.page p).fields = q.whole.fields := rfl
  have order : (q.page p).orderBys = q.whole.orderBys := rfl
  have hint : (q.page p).hint = q.whole.hint := rfl
  unfold search
  rw [limit, sizeOf_size accepted, offset, Option.getD_some, max_offset accepted, criteria, groups,
    fields, order, hint]
  refine bind_map_congr fun condition => ?_
  cases q.whole.groupBys with
  | cons group rest => exact bind_map_congr fun field => rfl
  | nil =>
    dsimp only
    split_ifs
    all_goals exact bind_map_congr fun source => bind_map_congr fun sort => rfl

theorem aggregation_of_search {m : Mapping} {window : Int64} {q : Query} {index : String}
    {request : SearchRequest} (single : q.groupBys = [])
    (searched : search m window q index = .ok request) : request.aggregation = none := by
  unfold search at searched
  obtain ⟨condition, -, rest⟩ := bind_eq_ok.mp searched
  simp only [single] at rest
  split_ifs at rest
  all_goals
    obtain ⟨source, -, rest⟩ := bind_eq_ok.mp rest
    obtain ⟨sort, -, built⟩ := bind_eq_ok.mp rest
    cases built
    rfl

end Search

/-! ## Tiles -/

structure Page.Tiles (p : Page) : Prop where
  accepted : p.Accepted
  /-- The window is the exact one. -/
  unrounded (q : Query) : ∃ offset : Int64,
    offset.toInt = (p.number.toInt - 1) * p.size.toInt ∧
      q.page p = { q with offset := some offset, limit := some p.size }
  selected (m : Mapping) (dialect : Dialect) (q : Query) :
    Relational.select m dialect (q.page p) = Relational.select m dialect q.whole >>= fun body =>
      if Relational.Fits p dialect then .ok ((Relational.pageWindow p dialect).around body)
      else .error (.invalidArgument .query .offsetOverflow)
  kept (dialect : Dialect) {α : Type} (all : List α) :
    (Relational.pageWindow p dialect).rows all = p.rows all
  overflows (m : Mapping) (q : Query) :
    (∃ fault, Relational.select m .oracle (q.page p) = .error (.invalidArgument .query fault)) ↔
      Int64.maxValue.toInt < p.number.toInt * p.size.toInt ∧
        ∃ body, Relational.select m .oracle q.whole = .ok body
  spared (m : Mapping) (q : Query) : SparesQuery (Relational.select m .mysql (q.page p))
  requested (m : Mapping) (window : Int64) (q : Query) (index : String) :
    Search.search m window (q.page p) index =
      (Search.search m window q.whole index).map (·.narrowed p)
  brought (m : Mapping) (window : Int64) (q : Query) (index : String) (request : SearchRequest) :
    q.groupBys = [] → Search.search m window (q.page p) index = .ok request →
      ∀ {α : Type} (all : List α), request.rows all = p.rows all
  searches (m : Mapping) (window : Int64) (q : Query) (index : String) :
    SparesQuery (Search.search m window (q.page p) index)
  /-- The pages up to this one are the first rows, each of them once. -/
  tiled {α : Type} (all : List α) :
    p.upTo.flatMap (·.rows all) = all.take (p.number.toInt * p.size.toInt).toNat
  earlier : ∀ page ∈ p.upTo, page.Accepted

/-- A page that is accepted is the same rows in every store, and the pages of one size are all rows
one after another. Only the number of the last row can be too great, and only where rows are
numbered. -/
theorem pages_tile (p : Page) (checked : p.check = .ok ()) : p.Tiles := by
  have accepted : p.Accepted := Page.check_eq_ok.mp checked
  constructor
  case accepted => exact accepted
  case unrounded =>
    intro q
    exact ⟨p.offset, Page.toInt_offset accepted, rfl⟩
  case selected =>
    intro m dialect q
    rw [Relational.select_page accepted]
    exact bind_congr fun body => Relational.paginate_page accepted dialect body
  case kept =>
    intro dialect α all
    exact Relational.rows_pageWindow accepted dialect all
  case overflows =>
    intro m q
    rw [Relational.select_page_blames_iff accepted]
    unfold Relational.Fits
    simp
  case spared =>
    intro m q fault blamed
    have wide := (Relational.select_page_blames_iff accepted m .mysql q).mp ⟨fault, blamed⟩
    exact wide.1 nofun
  case requested =>
    intro m window q index
    exact Search.search_page accepted m window q index
  case brought =>
    intro m window q index request single searched α all
    rw [Search.search_page accepted] at searched
    obtain ⟨whole, found, rfl⟩ := map_eq_ok.mp searched
    have brings := Search.aggregation_of_search (q := q.whole) single found
    exact SearchRequest.rows_narrowed accepted brings all
  case searches =>
    intro m window q index
    exact SparesQuery.search m window (q.page p) index
  case tiled =>
    intro α all
    exact Page.flatMap_rows_upTo accepted all
  case earlier => exact Page.accepted_of_mem_upTo accepted

/-- The rows before this page can be counted, the rows up to its end cannot. -/
def widePage : Page := ⟨2, 4611686018427387904⟩

theorem widePage_tiles :
    widePage.check = .ok () ∧
    Relational.select accountMapping .oracle (Query.page {} widePage) =
      .error (.invalidArgument .query .offsetOverflow) ∧
    Relational.select accountMapping .mysql (Query.page {} widePage) = .ok
      [.fixed "SELECT id,owner_name FROM accounts ", .fixed "",
        .fixed "LIMIT 4611686018427387904,4611686018427387904"] := by
  have checked : widePage.check = .ok () := by decide
  have tiles := pages_tile widePage checked
  have wide : ¬ Relational.Fits widePage .oracle := by decide
  have fits : Relational.Fits widePage .mysql := by decide
  have whole (dialect : Dialect) : Relational.select accountMapping dialect (Query.whole {}) =
      .ok [.fixed "SELECT id,owner_name FROM accounts ", .fixed ""] := rfl
  refine ⟨checked, ?_, ?_⟩
  · rw [tiles.selected, whole]
    simp only [bind, Except.bind, if_neg wide]
  · rw [tiles.selected, whole]
    simp only [bind, Except.bind, if_pos fits]
    rfl

end EntityStore
