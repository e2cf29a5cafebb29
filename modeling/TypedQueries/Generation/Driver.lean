import TypedQueries.CompileError

/-!
Database drivers that a generated package can be made for, and the Go source that each needs.
-/

namespace TypedQueries

inductive Driver where
  /-- `database/sql` with SQLite -/
  | sqlite3
  /-- `pgx` with a connection pool -/
  | postgres
  deriving DecidableEq, Repr

namespace Driver

def text : Driver → String
  | sqlite3 => "sqlite3"
  | postgres => "postgres"

/-- The driver of a name, in which the case of ASCII letters does not count. -/
def ofText (name : String) : Except CompileError Driver :=
  match String.ofList (name.toList.map Char.toLower) with
  | "sqlite3" => .ok sqlite3
  | "sqlite" => .ok sqlite3
  | "postgres" => .ok postgres
  | "postgresql" => .ok postgres
  | _ => .error (.unsupportedDriver name)

theorem ofText_text (d : Driver) : ofText d.text = .ok d := by
  cases d <;> rfl

/-- Lines of the import clause; an empty one divides groups. -/
def imports : Driver → List String
  | sqlite3 => ["\"context\"", "\"database/sql\"", "", "_ \"github.com/mattn/go-sqlite3\""]
  | postgres =>
    ["\"context\"", "", "\"github.com/jackc/pgx/v5\"", "\"github.com/jackc/pgx/v5/pgxpool\""]

def unlines (lines : List String) : String := String.join (lines.map (· ++ "\n"))

/-- The interfaces that the generated methods use, the same for every driver. -/
def preamble : String := unlines [
  "type Row interface \x7b",
  "\tScan(dest ...any) error",
  "\x7d",
  "",
  "type Rows interface \x7b",
  "\tNext() bool",
  "\tScan(dest ...any) error",
  "\tErr() error",
  "\tClose() error",
  "\x7d",
  "",
  "type DBX interface \x7b",
  "\tExec(ctx context.Context, query string, args ...any) error",
  "\tQuery(ctx context.Context, query string, args ...any) (Rows, error)",
  "\tQueryRow(ctx context.Context, query string, args ...any) Row",
  "\x7d",
  "",
  "type Queries struct \x7b",
  "\tdb DBX",
  "\x7d",
  "",
  "func New(db DBX) *Queries \x7b",
  "\treturn &Queries\x7bdb: db\x7d",
  "\x7d"]

def sqlite3Adapter : String := unlines [
  "type sqlDB struct \x7b",
  "\tdb *sql.DB",
  "\x7d",
  "",
  "func NewFromDB(db *sql.DB) *Queries \x7b",
  "\treturn New(&sqlDB\x7bdb: db\x7d)",
  "\x7d",
  "",
  "func (s *sqlDB) Exec(ctx context.Context, query string, args ...any) error \x7b",
  "\t_, err := s.db.ExecContext(ctx, query, args...)",
  "\treturn err",
  "\x7d",
  "",
  "func (s *sqlDB) Query(ctx context.Context, query string, args ...any) (Rows, error) \x7b",
  "\trows, err := s.db.QueryContext(ctx, query, args...)",
  "\tif err != nil \x7b",
  "\t\treturn nil, err",
  "\t\x7d",
  "\treturn rows, nil",
  "\x7d",
  "",
  "func (s *sqlDB) QueryRow(ctx context.Context, query string, args ...any) Row \x7b",
  "\treturn s.db.QueryRowContext(ctx, query, args...)",
  "\x7d"]

def postgresAdapter : String := unlines [
  "type pgxDB struct \x7b",
  "\tpool *pgxpool.Pool",
  "\x7d",
  "",
  "func NewFromPool(pool *pgxpool.Pool) *Queries \x7b",
  "\treturn New(&pgxDB\x7bpool: pool\x7d)",
  "\x7d",
  "",
  "func (p *pgxDB) Exec(ctx context.Context, query string, args ...any) error \x7b",
  "\t_, err := p.pool.Exec(ctx, query, args...)",
  "\treturn err",
  "\x7d",
  "",
  "func (p *pgxDB) Query(ctx context.Context, query string, args ...any) (Rows, error) \x7b",
  "\trows, err := p.pool.Query(ctx, query, args...)",
  "\tif err != nil \x7b",
  "\t\treturn nil, err",
  "\t\x7d",
  "\treturn pgxRows\x7brows\x7d, nil",
  "\x7d",
  "",
  "func (p *pgxDB) QueryRow(ctx context.Context, query string, args ...any) Row \x7b",
  "\treturn p.pool.QueryRow(ctx, query, args...)",
  "\x7d",
  "",
  "type pgxRows struct \x7b",
  "\tpgx.Rows",
  "\x7d",
  "",
  "func (r pgxRows) Close() error \x7b",
  "\tr.Rows.Close()",
  "\treturn nil",
  "\x7d"]

/-- What joins the handle of the driver to the common interfaces. -/
def adapter : Driver → String
  | sqlite3 => sqlite3Adapter
  | postgres => postgresAdapter

end Driver

end TypedQueries
