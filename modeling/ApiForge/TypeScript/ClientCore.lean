import ApiForge.Text.Basic

/-!
# The fixed parts of clients

What every client file says: the settings and the error of a client, the
encoding of bodies, and the members through which the methods of a client send
their requests.
-/

namespace ApiForge.TypeScript

/-- The settings and the error of a client. -/
def configLines : List Text :=
  ["export interface ClientConfig \x7b",
    "  baseUrl: string;",
    "  headers?: Record<string, string>;",
    "\x7d",
    "",
    "export class ApiError extends Error \x7b",
    "  readonly status: number;",
    "  readonly statusText: string;",
    "",
    "  constructor(status: number, statusText: string) \x7b",
    "    super(\x60HTTP $\x7bstatus\x7d: $\x7bstatusText\x7d\x60);",
    "    this.name = \"ApiError\";",
    "    this.status = status;",
    "    this.statusText = statusText;",
    "  \x7d",
    "\x7d"]

/-- The encoding of a body for its content type. -/
def encodingLines : List Text :=
  ["function encodeBody(body: unknown, contentType: string): BodyInit \x7b",
    "  if (contentType.includes(\"json\")) \x7b",
    "    return JSON.stringify(body);",
    "  \x7d",
    "  if (contentType === \"application/x-www-form-urlencoded\") \x7b",
    "    const form = new URLSearchParams();",
    "    for (const [key, value] of Object.entries(body as Record<string, unknown>)) \x7b",
    "      if (value !== undefined) form.set(key, String(value));",
    "    \x7d",
    "    return form;",
    "  \x7d",
    "  if (contentType === \"multipart/form-data\") \x7b",
    "    const form = new FormData();",
    "    for (const [key, value] of Object.entries(body as Record<string, unknown>)) \x7b",
    "      if (value !== undefined) form.set(key, value instanceof Blob ? value : String(value));",
    "    \x7d",
    "    return form;",
    "  \x7d",
    "  return body as BodyInit;",
    "\x7d"]

/-- What stands before the class of the client. -/
def sharedLines : List Text :=
  configLines ++ [[]] ++ encodingLines

/-- The members that every client has beside its groups. -/
def coreLines : List Text :=
  ["  private readonly baseUrl: string;",
    "  private readonly headers: Record<string, string>;",
    "",
    "  constructor(config: ClientConfig) \x7b",
    "    this.baseUrl = config.baseUrl.replace(/\\/$/, \"\");",
    "    this.headers = \x7b ...(config.headers ?? \x7b\x7d) \x7d;",
    "  \x7d",
    "",
    "  private async request(",
    "    method: string,",
    "    path: string,",
    "    body?: unknown,",
    "    contentType?: string,",
    "  ): Promise<Response> \x7b",
    "    const headers: Record<string, string> = \x7b ...this.headers \x7d;",
    "    const init: RequestInit = \x7b method, headers \x7d;",
    "    if (body !== undefined && contentType !== undefined) \x7b",
    "      // FormData sets its own multipart boundary header.",
    "      if (contentType !== \"multipart/form-data\") headers[\"Content-Type\"] = contentType;",
    "      init.body = encodeBody(body, contentType);",
    "    \x7d",
    "",
    "    const response = await fetch(this.baseUrl + path, init);",
    "    if (response.status < 200 || response.status >= 400) \x7b",
    "      throw new ApiError(response.status, response.statusText);",
    "    \x7d",
    "    return response;",
    "  \x7d"]

end ApiForge.TypeScript
