import SemanticLayer.Proofs.LookML.Explore
namespace SemanticLayer.LookML

/-! Reading views and explores back from their files. -/

def View.ofText? (text : String) : Option View :=
  match (itemsOf? text).map (blocksOf "view") with
  | some [item] => some (View.ofItem item)
  | _ => none

def exploresOf? (text : String) : Option (List Explore) :=
  (itemsOf? text).map fun items => (blocksOf "explore" items).map Explore.ofItem

theorem View.ofText?_emitView (options : EmitOptions) {view : View} (named : view.WellNamed) :
    View.ofText? (emitView options view) = some view.shown := by
  have readable : Readables [view.item] := readables_cons.mpr ⟨view.readable_item named, readables_nil⟩
  have found : blocksOf "view" (header options ++ [view.item]) = [view.item] := by
    rw [blocksOf_append, blocksOf_header, List.nil_append]
    rfl
  rw [View.ofText?, emitView, itemsOf?_emit options readable, Option.map_some, found]
  exact congrArg some (ofItem_item named)

theorem exploresOf?_emitExplores (options : EmitOptions) {explores : List Explore}
    (named : ∀ explore ∈ explores, explore.WellNamed) :
    exploresOf? (emitExplores options explores) = some (explores.map Explore.shown) := by
  have readable : Readables (.line (stringLine "include" "*.view.lkml") :: spaced (explores.map Explore.item)) :=
    readables_cons.mpr ⟨readable_line (by decide) (isValue_quote _),
      readables_spaced_map fun explore member => Explore.readable_item (named explore member)⟩
  have exploresRead := map_ofItem_map fun explore member => Explore.ofItem_item (named explore member)
  rw [exploresOf?, emitExplores, itemsOf?_emit options readable, Option.map_some, blocksOf_append,
    blocksOf_header, List.nil_append, blocksOf_cons_line, blocksOf_spaced_map Explore.keyword?_item,
    if_pos rfl, exploresRead]

/-- What a file shows of its records can be recovered from it, whatever the options. Records with
the same file therefore agree in all that is shown. -/
theorem emission_loses_nothing (options others : EmitOptions) :
    (∀ view : View, view.WellNamed → View.ofText? (emitView options view) = some view.shown) ∧
    (∀ explores : List Explore, (∀ explore ∈ explores, explore.WellNamed) →
      exploresOf? (emitExplores options explores) = some (explores.map Explore.shown)) ∧
    (∀ view other : View, view.WellNamed → other.WellNamed →
      emitView options view = emitView others other → view.shown = other.shown) ∧
    (∀ explores alike : List Explore, (∀ explore ∈ explores, explore.WellNamed) →
      (∀ explore ∈ alike, explore.WellNamed) →
      emitExplores options explores = emitExplores others alike →
      explores.map Explore.shown = alike.map Explore.shown) := by
  refine ⟨fun view => View.ofText?_emitView options, fun explores => exploresOf?_emitExplores options, ?_, ?_⟩
  · intro view other named otherNamed same
    have read := View.ofText?_emitView options named
    rw [same, View.ofText?_emitView others otherNamed] at read
    exact (Option.some_inj.mp read).symm
  · intro explores alike named alikeNamed same
    have read := exploresOf?_emitExplores options named
    rw [same, exploresOf?_emitExplores others alikeNamed] at read
    exact (Option.some_inj.mp read).symm

/-- A view whose SQL and labels hold line breaks, quotes and what looks like other lines. -/
def searches : View :=
  { name := "searches"
    model := "searches"
    tableName := some "analytics.searches"
    dimensions := [{
      name := "search", sql := "$\x7bTABLE\x7d.search_id", isPrimaryKey := true, isHidden := true }]
    groups := [{ name := "started", timeframes := ["date", "week"], sql := "started_at\n\x7d" }]
    measures := [{ name := "search_count", type := "count", label := some "\"All\"\nsearches: \x7b" }]
    metrics := [{
      name := "search_to_rental", metric := "search_to_rental", type := "number"
      sql := "1.0 *\n  $\x7brentals.rental_count\x7d ;;\nhidden: yes"
      requiredFields := ["rentals.rental_count"], label := "Search to rental"
      valueFormat := some "percent_2" }] }

theorem searches_wellNamed : searches.WellNamed where
  name := by decide
  dimensions := List.forall_mem_singleton.mpr ⟨by decide, nofun⟩
  groups := List.forall_mem_singleton.mpr ⟨by decide, by decide⟩
  measures := List.forall_mem_singleton.mpr ⟨by decide, by decide, by decide⟩
  metrics := List.forall_mem_singleton.mpr {
    name := by decide
    type := rfl
    requiredFields := List.forall_mem_singleton.mpr ⟨"rentals", "rental_count", by decide, by decide, rfl⟩
    valueFormat := by decide }

/-- An explore of another name than its base view. -/
def prefixedSearches : Explore :=
  { name := "x_searches"
    baseView := "searches"
    joins := [{
      view := "rentals", condition := "$\x7bsearches.search\x7d =\n$\x7brentals.search\x7d"
      relationship := .oneToMany, type := "left_outer", hopCount := 1
      fields := ["rentals.dimensions_only*", "rentals.rental_count"] }] }

theorem prefixedSearches_wellNamed : prefixedSearches.WellNamed where
  name := by decide
  baseView := by decide
  joins := List.forall_mem_singleton.mpr {
    view := by decide
    type := by decide
    fields := by
      have all : IsQualified "rentals.dimensions_only" :=
        ⟨"rentals", "dimensions_only", by decide, by decide, rfl⟩
      have count : IsQualified "rentals.rental_count" := ⟨"rentals", "rental_count", by decide, by decide, rfl⟩
      exact List.forall_mem_cons.mpr
        ⟨⟨_, all, .inr rfl⟩, List.forall_mem_singleton.mpr ⟨_, count, .inl rfl⟩⟩ }

theorem searches_read_back :
    searches.WellNamed ∧ prefixedSearches.WellNamed ∧
    View.ofText? (emitView { indent := .tabs } searches) =
      some { searches with
        model := ""
        groups := [{ name := "started", timeframes := ["date", "week"], sql := "started_at \x7d" }]
        measures := [{ name := "search_count", type := "count", label := some "\"All\" searches: \x7b" }]
        metrics := [{
          name := "search_to_rental", metric := "", type := "number"
          sql := "1.0 * $\x7brentals.rental_count\x7d ;; hidden: yes"
          requiredFields := ["rentals.rental_count"], label := "Search to rental"
          valueFormat := some "percent_2" }] } ∧
    exploresOf? (emitExplores { indent := .tabs } [prefixedSearches]) =
      some [{ prefixedSearches with
        joins := [{
          view := "rentals", condition := "$\x7bsearches.search\x7d = $\x7brentals.search\x7d"
          relationship := .oneToMany, type := "left_outer", hopCount := 0
          fields := ["rentals.dimensions_only*", "rentals.rental_count"] }] }] := by
  have lossless := emission_loses_nothing { indent := .tabs } {}
  refine ⟨searches_wellNamed, prefixedSearches_wellNamed, ?_, ?_⟩
  · rw [lossless.1 searches searches_wellNamed]
    decide +kernel
  · rw [lossless.2.1 [prefixedSearches] (List.forall_mem_singleton.mpr prefixedSearches_wellNamed)]
    decide +kernel

end SemanticLayer.LookML
