import RequestDispatch.Text.Cut

/-! Queries and path parameters.

A request path may carry a query behind `?` and parameters behind `;`. Neither takes
part in dispatch: `withoutQuery` and `bare` cut them off. -/
namespace RequestDispatch.Path

/-- The path before its query. -/
def withoutQuery (path : String) : String := Text.upTo (· == '?') path

/-- The path before its query and its parameters. -/
def bare (path : String) : String := Text.upTo (· == ';') (withoutQuery path)

end RequestDispatch.Path
