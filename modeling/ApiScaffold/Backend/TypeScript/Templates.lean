/-
The templates of a TypeScript client.
-/
import ApiScaffold.Backend.Markup

namespace ApiScaffold.Backend.TypeScript

/-- All that the client has. -/
def index : String := lines [
  "export * from './api/api';",
  "export * from './model/models';",
  "export * from './variables';",
  "export * from './configuration';"]

/-- Constants of the client. -/
def fixedValues : String := lines [
  "export const BASE_PATH = '" ++ out "base_path" ++ "'.replace(/\\/+$/, '');",
  "",
  "export const COLLECTION_FORMATS = \x7b",
  "    csv: ',',",
  "    tsv: '\\t',",
  "    ssv: ' ',",
  "    pipes: '|',",
  "\x7d;"]

/-- The settings of a client. -/
def configuration : String := lines [
  "export interface ConfigurationParameters \x7b",
  "    basePath?: string;",
  "    accessToken?: string | (() => string);",
  "    headers?: Record<string, string>;",
  "    fetchApi?: typeof fetch;",
  "\x7d",
  "",
  "export class Configuration \x7b",
  "    basePath?: string;",
  "    accessToken?: string | (() => string);",
  "    headers: Record<string, string>;",
  "    fetchApi: typeof fetch;",
  "",
  "    constructor(params: ConfigurationParameters = \x7b\x7d) \x7b",
  "        this.basePath = params.basePath;",
  "        this.accessToken = params.accessToken;",
  "        this.headers = params.headers ?? \x7b\x7d;",
  "        this.fetchApi = params.fetchApi ?? ((input, init) => fetch(input, init));",
  "    \x7d",
  "",
  "    /** Headers sent with every request, with the bearer token when one is set. */",
  "    requestHeaders(): Record<string, string> \x7b",
  "        const headers: Record<string, string> = \x7b ...this.headers \x7d;",
  "        const token = typeof this.accessToken === 'function' ? this.accessToken() : " ++
    "this.accessToken;",
  "        if (token) \x7b",
  "            headers['Authorization'] = `Bearer $\x7btoken\x7d`;",
  "        \x7d",
  "        return headers;",
  "    \x7d",
  "\x7d"]

/-- All services. -/
def services : String := lines [
  tag "for tag in paths",
  "import \x7b " ++ out "tag | pascal_case" ++ "Service \x7d from './" ++ out "tag" ++
    ".service';",
  tag "endfor",
  "",
  tag "for tag in paths",
  "export * from './" ++ out "tag" ++ ".service';",
  tag "endfor",
  "",
  "export const APIS = [" ++ tag "for tag in paths" ++ out "tag | pascal_case" ++ "Service" ++
    tag "if not loop.last" ++ ", " ++ tag "endif" ++ tag "endfor" ++ "];"]

/-- All models. -/
def models : String := lines [
  tag "for name in schemas",
  "export * from './" ++ out "name" ++ "';",
  tag "endfor"]

/-- The operations of one tag. -/
def service : String := lines [
  "import \x7b BASE_PATH \x7d from '../variables';",
  "import \x7b Configuration \x7d from '../configuration';",
  tag "for dep in tag_dependencies",
  "import \x7b " ++ out "dep" ++ " \x7d from '../model/" ++ out "dep" ++ "';",
  tag "endfor",
  "",
  "export class " ++ out "current_tag | pascal_case" ++ "Service \x7b",
  "    protected basePath: string;",
  "    public configuration: Configuration;",
  "",
  "    constructor(configuration?: Configuration) \x7b",
  "        this.configuration = configuration ?? new Configuration();",
  "        this.basePath = this.configuration.basePath ?? BASE_PATH;",
  "    \x7d",
  tag "for op in operations",
  tag "set body = op.request_body.contents | first if op.request_body else none",
  tag "set success = op.responses | selectattr(\"contents\") | first",
  tag "set result = (success.contents[0].type or \"any\") if success else \"void\"",
  tag ("set required_any = (op.parameters | selectattr(\"required\") | list | length > 0) " ++
    "or (op.request_body and op.request_body.required)"),
  "",
  "    /**",
  "     * " ++ out "op.summary or op.function_name",
  tag "if op.deprecated",
  "     * @deprecated",
  tag "endif",
  tag "for param in op.parameters",
  "     * @param request." ++ out "param.name | camel_case" ++ " " ++
    out "param.description or \"\"",
  tag "endfor",
  "     */",
  "    public async " ++ out "op.function_name | camel_case" ++ "(request: \x7b",
  tag "for param in op.parameters",
  "        " ++ out "param.name | camel_case" ++ tag "if not param.required" ++ "?" ++
    tag "endif" ++ ": " ++ out "param.type or \"any\"" ++ ";",
  tag "endfor",
  tag "if body",
  "        body" ++ tag "if not op.request_body.required" ++ "?" ++ tag "endif" ++ ": " ++
    out "body.type or \"any\"" ++ ";",
  tag "endif",
  "    \x7d" ++ tag "if not required_any" ++ " = \x7b\x7d" ++ tag "endif" ++ "): Promise<" ++
    out "result" ++ "> \x7b",
  "        let path = '" ++ out "op.url" ++ "';",
  tag "for param in op.parameters if param.location == \"path\"",
  "        path = path.replace('" ++ out "'\x7b'" ++ out "param.name" ++ out "'\x7d'" ++
    "', encodeURIComponent(String(request." ++ out "param.name | camel_case" ++ ")));",
  tag "endfor",
  "        const query = new URLSearchParams();",
  tag "for param in op.parameters if param.location == \"query\"",
  "        if (request." ++ out "param.name | camel_case" ++ " !== undefined) \x7b",
  "            query.append('" ++ out "param.name" ++ "', String(request." ++
    out "param.name | camel_case" ++ "));",
  "        \x7d",
  tag "endfor",
  "        const headers = this.configuration.requestHeaders();",
  tag "for param in op.parameters if param.location == \"header\"",
  "        if (request." ++ out "param.name | camel_case" ++ " !== undefined) \x7b",
  "            headers['" ++ out "param.name" ++ "'] = String(request." ++
    out "param.name | camel_case" ++ ");",
  "        \x7d",
  tag "endfor",
  tag "if body",
  "        headers['Content-Type'] = '" ++ out "body.format" ++ "';",
  tag "endif",
  "        const search = query.toString();",
  "        const response = await this.configuration.fetchApi(this.basePath + path + " ++
    "(search ? `?$\x7bsearch\x7d` : ''), \x7b",
  "            method: '" ++ out "op.method | upper" ++ "',",
  "            headers,",
  tag "if body",
  "            body: JSON.stringify(request.body),",
  tag "endif",
  "        \x7d);",
  "        if (!response.ok) \x7b",
  "            throw new Error(`" ++ out "op.function_name" ++
    " failed with status $\x7bresponse.status\x7d`);",
  "        \x7d",
  tag "if result == \"void\"",
  "        return;",
  tag "else",
  "        return (await response.json()) as " ++ out "result" ++ ";",
  tag "endif",
  "    \x7d",
  tag "endfor",
  "\x7d"]

/-- One model. -/
def model : String := lines [
  tag ("set primitives = \x7b\"string\": \"string\", \"integer\": \"number\", \"number\": " ++
    "\"number\", \"boolean\": \"boolean\"\x7d"),
  tag "for dep in schema.dependencies",
  "import \x7b " ++ out "dep" ++ " \x7d from './" ++ out "dep" ++ "';",
  tag "endfor",
  tag "if schema.dependencies",
  "",
  tag "endif",
  tag "if schema.description",
  "/**",
  " * " ++ out "schema.description",
  " */",
  tag "endif",
  tag "if schema.ref_name",
  "export type " ++ out "schema.name" ++ " = " ++ out "schema.ref_name" ++ ";",
  tag "elif schema.properties or schema.type == \"object\"",
  "export interface " ++ out "schema.name" ++ " \x7b",
  tag "for prop in schema.properties",
  tag "if prop.description",
  "    /** " ++ out "prop.description" ++ " */",
  tag "endif",
  "    " ++ out "prop.name" ++ tag "if not prop.is_required" ++ "?" ++ tag "endif" ++ ": " ++
    out "prop.type" ++ ";",
  tag "endfor",
  tag "if schema.additional_properties",
  "    [key: string]: " ++ tag "if schema.properties" ++ "unknown" ++ tag "else" ++
    out "schema.additional_properties" ++ tag "endif" ++ ";",
  tag "endif",
  "\x7d",
  tag "if schema.has_enums",
  "",
  "export namespace " ++ out "schema.name" ++ " \x7b",
  tag "for prop in schema.properties if prop.enum_values",
  "    export type " ++ out "prop.name | pascal_case" ++ "Enum = " ++
    tag "for value in prop.enum_values" ++ "'" ++ out "value" ++ "'" ++ tag "if not loop.last" ++
    " | " ++ tag "endif" ++ tag "endfor" ++ ";",
  "    export const " ++ out "prop.name | pascal_case" ++ "Enum = \x7b",
  tag "for value in prop.enum_values",
  "        " ++ out "value | pascal_case" ++ ": '" ++ out "value" ++ "' as " ++
    out "prop.name | pascal_case" ++ "Enum,",
  tag "endfor",
  "    \x7d;",
  tag "endfor",
  "\x7d",
  tag "endif",
  tag "elif schema.type == \"array\"",
  "export type " ++ out "schema.name" ++ " = Array<" ++
    out "schema.dependencies | first | default(\"any\")" ++ ">;",
  tag "else",
  "export type " ++ out "schema.name" ++ " = " ++
    out "primitives[schema.type] | default(\"any\")" ++ ";",
  tag "endif"]

/-- The templates with their names. -/
def templates : List (String × String) := [
  ("client_typescript/index.j2", index),
  ("client_typescript/variables.j2", fixedValues),
  ("client_typescript/configuration.j2", configuration),
  ("client_typescript/api_ts.j2", services),
  ("client_typescript/models.j2", models),
  ("client_typescript/service.j2", service),
  ("client_typescript/model.j2", model)]

end ApiScaffold.Backend.TypeScript
