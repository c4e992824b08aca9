import PageServer.Proofs.Service.Fields
/-! The header that names the view of a page. Only the endpoint of a page writes it, and the layers
around the routes leave it as it is, so it tells exactly the answers that show a page. -/
namespace PageServer

open Http Files Template

/-! Layers -/

section Layers

def viewsOf (r : Response) : List String :=
  r.headers.values Resolver.viewHeader

/-- The views that an outcome of the routes names. -/
def viewsIn : Except Failure Response → List String
  | .ok r => viewsOf r
  | .error (.http _ _ headers) => headers.values Resolver.viewHeader
  | .error _ => []

theorem viewsOf_fullHeaders (status : Status) (headers : Headers) (mediaType : Option String)
    (body : Body) : viewsOf ⟨status, fullHeaders status headers mediaType body, body⟩ =
      headers.values Resolver.viewHeader :=
  values_fullHeaders _ _ _ _ (by decide) (by decide)

theorem viewsIn_eq_valuesIn (outcome : Except Failure Response) :
    viewsIn outcome = valuesIn Resolver.viewHeader outcome := by
  cases outcome with
  | ok r => rfl
  | error failure => cases failure <;> rfl

end Layers

/-! Answers -/

section Answers

variable {τ : Type} [Clock τ] {service : Service τ} {store : Store} {m : Memory τ} {v : Visit τ}

/-- An answer of the routes names the views that their outcome names. -/
theorem Service.views_of_routes
    (author : service.author store m.limiter v = service.routesAuthor store v) :
    viewsOf (service.serve store m v).response = viewsIn (service.routed store v).result := by
  rw [viewsIn_eq_valuesIn]
  exact Service.values_of_routes author (by decide) (by decide)

end Answers

end PageServer
