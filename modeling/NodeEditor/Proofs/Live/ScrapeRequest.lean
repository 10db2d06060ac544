import Mathlib.Data.List.Forall2
import NodeEditor.Proofs.Live.Scraping
import NodeEditor.Proofs.Text.Parts

namespace NodeEditor

namespace ScrapeRequest

open Text

variable {kept urls : List String} {u s : String} {g : Graph} {node : NodeId} {values : ValueBag}
  {d : ScrapeDefaults}

def isDelimiter (c : Char) : Bool :=
  c = '\n' || c = ','

-- The texts in a value that may list some: those of an array, or the parts of a delimited text.
def textsIn : Json → List String
  | .arr items => items.filterMap Json.text?
  | .str s     => (s.toList.splitOnP isDelimiter).map String.ofList
  | _          => []

-- The addresses that a node offers: those that it lists, none of them with a delimiter in it if they
-- come out of one text, and behind them its single one.
structure Offers (values : ValueBag) (listed single : List String) : Prop where
  several     : Keeps (((values.get? "urls").map textsIn).getD []) listed
  one         : Keeps (values.text? "url").toList single
  undelimited : ∀ s, values.get? "urls" = some (.str s) →
    ∀ u ∈ listed, ',' ∉ u.toList ∧ '\n' ∉ u.toList

-- Those of the node of some name, none if there is no such node.
inductive OfferedBy (g : Graph) (node : NodeId) : List String → Prop
  | missing : g.node? node = none → OfferedBy g node []
  | node {n listed single} : g.node? node = some n → Offers n.data.values listed single →
      OfferedBy g node (listed ++ single)

-- A request for a node that asks for the addresses of the nodes before it, edge by edge, and for
-- its own ones only if there are none before it.
structure AsksFor (r : ScrapeRequest) (g : Graph) (node : NodeId) : Prop where
  inputs  : ∃ offered, (g.edges.filter (·.target = node)).Forall₂ (OfferedBy g ·.source) offered ∧
    r.inputUrls = offered.flatten
  own     : ∃ offered, OfferedBy g node offered ∧
    r.urls = if r.inputUrls = [] then offered else []
  trimmed : ∀ u ∈ r.urls ++ r.inputUrls, Trimmed u

theorem keeps_filled : ∀ texts, Keeps texts (filled texts)
  | []           => .nil
  | text :: rest => by
    have hf : filled (text :: rest) = if trim text = "" then filled rest
        else trim text :: filled rest := by
      by_cases h : trim text = "" <;> simp [filled, h]
    rw [hf]
    split
    case isTrue h  => exact .blank (trim_eq_empty_iff.mp h) <| keeps_filled rest
    case isFalse h =>
      have ⟨l, r, hs, hl, hr⟩ := exists_trim text
      have hk : Keeps ((l ++ trim text ++ r) :: rest) _ :=
        .text hl hr (trim_trimmed h) <| keeps_filled rest
      rwa [← hs] at hk

theorem listed_eq (j : Json) : listed j = filled (textsIn j) := by
  cases j with
  | str s => rw [listed, splitWhere_eq_splitOnP]; rfl
  | _     => rfl

-- A part between delimiters has none in it, and still less what is kept of it.
theorem not_isDelimiter_of_keeps {c : Char} (k : Keeps (textsIn (.str s)) kept)
    (hu : u ∈ kept) (hc : c ∈ u.toList) : isDelimiter c = false := by
  have ⟨_, text, ht, hs⟩ := k.mem hu
  obtain ⟨w, hw, rfl⟩ := List.mem_map.mp ht
  exact not_of_mem_splitOnP hw <| by simpa using hs c hc

theorem offers_urlsIn (values : ValueBag) :
    ∃ listed single, Offers values listed single ∧ urlsIn values = listed ++ single := by
  have hl : Keeps (((values.get? "urls").map textsIn).getD []) (listUnder values "urls") := by
    rw [listUnder]
    cases values.get? "urls" with
    | none   => exact .nil
    | some j =>
      rw [Option.map_some, Option.map_some, Option.getD_some, Option.getD_some, listed_eq]
      exact keeps_filled _
  refine ⟨listUnder values "urls", _, ⟨hl, keeps_filled _, fun s hs u hu => ?_⟩, rfl⟩
  rw [hs] at hl
  have hd (c : Char) (hc : c ∈ u.toList) := not_isDelimiter_of_keeps hl hu hc
  exact ⟨fun hc => absurd (hd _ hc) <| by decide, fun hc => absurd (hd _ hc) <| by decide⟩

theorem offeredBy_urlsIn (g : Graph) (node : NodeId) :
    OfferedBy g node (((g.node? node).map fun n => urlsIn n.data.values).getD []) := by
  cases h : g.node? node with
  | none   => exact .missing h
  | some n =>
    have ⟨_, _, o, hu⟩ := offers_urlsIn n.data.values
    rw [Option.map_some, Option.getD_some, hu]
    exact .node h o

theorem OfferedBy.trimmed (o : OfferedBy g node urls) (h : u ∈ urls) : Trimmed u := by
  cases o with
  | missing   => exact absurd h List.not_mem_nil
  | node _ o  => exact (List.mem_append.mp h).elim o.several.trimmed o.one.trimmed

theorem inputUrls_ofNode : (ofNode g node d).inputUrls =
    ((g.edges.filter (·.target = node)).map fun e =>
      ((g.node? e.source).map fun n => urlsIn n.data.values).getD []).flatten := by
  simp only [ofNode, ofValues, Graph.predecessors]
  induction g.edges.filter (·.target = node) with
  | nil         => rfl
  | cons e _ ih =>
    rw [List.map_cons, List.flatten_cons, ← ih, List.filterMap_cons]
    cases g.node? e.source <;> rfl

theorem urls_ofNode : (ofNode g node d).urls = if (ofNode g node d).inputUrls = []
    then ((g.node? node).map fun n => urlsIn n.data.values).getD [] else [] := by
  simp only [ofNode, ofValues, List.isEmpty_iff]
  cases g.node? node <;> rfl

theorem ofNode_asksFor (g : Graph) (node : NodeId) (d : ScrapeDefaults) :
    (ofNode g node d).AsksFor g node where
  inputs      := by
    refine ⟨_, List.forall₂_map_right_iff.mpr <| List.forall₂_same.mpr ?_, inputUrls_ofNode⟩
    exact fun e _ => offeredBy_urlsIn g e.source
  own         := ⟨_, offeredBy_urlsIn g node, urls_ofNode⟩
  trimmed u h := by
    rw [inputUrls_ofNode, urls_ofNode] at h
    rcases List.mem_append.mp h with h | h
    · split at h
      case isTrue  => exact (offeredBy_urlsIn g node).trimmed h
      case isFalse => exact absurd h List.not_mem_nil
    · have ⟨_, hm, h⟩ := List.mem_flatten.mp h
      obtain ⟨e, _, rfl⟩ := List.mem_map.mp hm
      exact (offeredBy_urlsIn g e.source).trimmed h

theorem hasNoUrls_iff {r : ScrapeRequest} : r.hasNoUrls ↔ r.urls ++ r.inputUrls = [] := by
  simp [hasNoUrls]

end ScrapeRequest

namespace Controller

variable {c : Controller} {s : Surroundings} {asked : ScrapeRequest}

-- A call to scrape is turned away while another one runs, and for good after an unmount.
def Admits (c : Controller) : Prop :=
  c.mounted ∧ ¬c.live.scrape.scraping

-- The request that is made up for a call.
def request (c : Controller) (s : Surroundings) : ScrapeRequest :=
  .ofNode s.graph c.node s.scrapeDefaults

theorem scrape_of_admits (h : c.Admits) : (c.scrape s).progress =
    if (c.request s).urls ++ (c.request s).inputUrls = [] then .ended (.scraped .noInput)
    else .waiting (.scrape (c.request s)) := by
  simp only [scrape, h.left, h.right, Bool.not_true, Bool.false_eq_true, if_false,
    ScrapeRequest.hasNoUrls_iff]
  exact apply_ite ..

theorem scrape_of_not_admits (h : ¬c.Admits) :
    ∃ x ≠ .noInput, (c.scrape s).progress = .ended (.scraped x) := by
  by_cases hm : c.mounted
  case neg => exact ⟨.unmounted, by rintro ⟨⟩, by simp [scrape, hm, ends]⟩
  case pos =>
    have hs : c.live.scrape.scraping := Classical.not_not.mp fun hs => h ⟨hm, hs⟩
    exact ⟨.busy, by rintro ⟨⟩, by simp [scrape, hm, hs, ends]⟩

-- A call that is not turned away asks for the addresses before the node or else its own, if there
-- is any, and else ends without a request.
theorem scrape_asks_for (c : Controller) (s : Surroundings) :
    (c.request s).AsksFor s.graph c.node ∧
    (∀ asked, (c.scrape s).progress.request? = some asked ↔
      c.Admits ∧ asked = c.request s ∧ asked.urls ++ asked.inputUrls ≠ []) ∧
    ((c.scrape s).progress = .ended (.scraped .noInput) ↔
      c.Admits ∧ (c.request s).urls ++ (c.request s).inputUrls = []) := by
  refine ⟨ScrapeRequest.ofNode_asksFor .., ?_⟩
  by_cases ha : c.Admits
  case neg =>
    have ⟨x, hx, hp⟩ := scrape_of_not_admits (s := s) ha
    rw [hp]
    simp [Progress.request?, ha, hx]
  case pos =>
    rw [scrape_of_admits ha]
    split
    case isTrue hn  =>
      refine ⟨fun asked => ⟨by rintro ⟨⟩, ?_⟩, fun _ => ⟨ha, hn⟩, fun _ => rfl⟩
      rintro ⟨_, rfl, hu⟩
      exact absurd hn hu
    case isFalse hn =>
      refine ⟨fun asked => ⟨?_, ?_⟩, by rintro ⟨⟩, fun h => absurd h.right hn⟩
      · rintro ⟨⟩
        exact ⟨ha, rfl, hn⟩
      · rintro ⟨_, rfl, _⟩
        rfl

-- A node with addresses in one text, and behind it another one with an address of its own.
def feed : Node where
  id       := ⟨"f"⟩
  type     := "feed"
  position := { x := 0, y := 0 }
  data     := { NodeData.empty with
    values := .ofList [("urls", .str " https://a.example,\n, https://b.example")] }

def feeding : Surroundings :=
  let g := (Graph.empty.push feed).push Scene.page
  { World.quiet.surroundings with
    graph := g.pushEdge
      { id := ⟨"e"⟩, source := feed.id, sourceHandle := "out", target := Scene.page.id
        targetHandle := "in" } }

-- It is the node before that is asked about.
theorem scrape_asks_for_feed :
    let c := mount Scene.page.id (.plain Scene.page.type "Scraper")
    (c.request feeding).inputUrls = ["https://a.example", "https://b.example"] ∧
    (c.request feeding).urls = [] ∧ (c.request feeding).AsksFor feeding.graph Scene.page.id ∧
    (c.scrape feeding).progress.request? = some (c.request feeding) := by
  intro c
  have hi : (c.request feeding).inputUrls = ["https://a.example", "https://b.example"] := by
    decide +kernel
  have hu : (c.request feeding).urls = [] := by decide +kernel
  have ⟨asks, sent, _⟩ := scrape_asks_for c feeding
  refine ⟨hi, hu, asks, (sent _).mpr ⟨⟨rfl, Bool.false_ne_true⟩, rfl, ?_⟩⟩
  rw [hi, hu]
  exact List.cons_ne_nil _ _

end Controller

end NodeEditor
