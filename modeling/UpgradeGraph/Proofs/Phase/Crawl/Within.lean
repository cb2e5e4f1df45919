import UpgradeGraph.Proofs.Division.Recording
import UpgradeGraph.Proofs.Phase.Crawl.Resumption

/-!
# Registries that keep to some of their states

What a registry remembers of earlier requests it may answer from later on, and what it tells is to
be relied on only as long as it remembers nothing wrong. If it never comes to do so by itself
(`Source.Keeps`), it is as good as a registry that has no other states (`Source.within`): crawls of
the two are the same (`CrawlWorld.crawl_widened`).
-/

namespace UpgradeGraph

variable {φ σ : Type} {P : σ → Prop}

/-- No request leads out of the states with the property. -/
structure Source.Keeps (source : Source σ) (P : σ → Prop) : Prop where
  list : ∀ page r, P r → P (source.list page r).2
  fetch : ∀ id r, P r → P (source.fetch id r).2

/-- The source with no other states than those with the property. -/
def Source.within (source : Source σ) (h : source.Keeps P) : Source {r // P r} where
  ecosystem := source.ecosystem
  list := fun page r => ((source.list page r).1, ⟨(source.list page r).2, h.list page r r.2⟩)
  fetch := fun id r => ((source.fetch id r).1, ⟨(source.fetch id r).2, h.fetch id r r.2⟩)

namespace CrawlWorld

/-- The world, in which the registry may have other states as well. -/
def widened (w : CrawlWorld φ {r // P r}) : CrawlWorld φ σ where
  world := w.world
  registry := w.registry
  checkpoint := w.checkpoint
  arrivals := w.arrivals
  events := w.events

variable {disturb : Disturber φ} {source : Source σ}

theorem serve_widened (h : source.Keeps P) (request : Crawl.Request)
    (w : CrawlWorld φ {r // P r}) : serve disturb source request w.widened =
      ((serve disturb (source.within h) request w).1,
        (serve disturb (source.within h) request w).2.widened) := by
  cases request with
  | arrival underWay =>
    by_cases hne : 0 < underWay.length
    · simp only [serve, dif_pos hne]
      rfl
    · simp only [serve, dif_neg hne]
  | _ => rfl

/-- A crawl does not depend on the states that the registry is never in. -/
theorem crawl_widened (h : source.Keeps P) (config : CrawlConfig) (w : CrawlWorld φ {r // P r}) :
    w.widened.crawl disturb source config =
      ((w.crawl disturb (source.within h) config).1,
        (w.crawl disturb (source.within h) config).2.widened) := by
  have hrun : (w.widened.program source config).run (serve disturb source) w.widened =
      (((w.program (source.within h) config).run (serve disturb (source.within h)) w).1,
        ((w.program (source.within h) config).run (serve disturb (source.within h)) w).2.widened) :=
    Program.run_map (serve_widened h) _ w
  rw [crawl_eq, crawl_eq, hrun]
  rcases (w.program (source.within h) config).run (serve disturb (source.within h)) w with
    ⟨_ | _ | _, _⟩ <;> rfl

end CrawlWorld

end UpgradeGraph
